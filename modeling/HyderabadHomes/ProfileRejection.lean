import HyderabadHomes.App

/-! What a rejected profile form costs. `build_profile` replaces the stored profile before
the new one is validated; `update_attributes` writes after the validation. -/
namespace HyderabadHomes
open Relational

def Profile.Invalid (answer : Geocoding) (record : Profile) : Prop :=
  answer = .rejected ∨ (answer ≠ .raised ∧ Profile.valid record = false)

theorem Profile.save_eq_rejected {answer : Geocoding} {record : Profile} :
    save answer record = .rejected ↔ Invalid answer record := by
  unfold save saveGeocoded Invalid
  cases answer with
  | raised => simp
  | rejected => simp
  | accepted latitude longitude =>
    simp only
    split
    · rename_i accepted
      split <;> simp [accepted]
    · rename_i refused
      simp [refused]

namespace ProfilesController
open Profile

def Refused (env : Env) (user : Int) (attrs : Attrs) (addr : Option String) (answer : Geocoding) : Prop :=
  ∃ record, assign (attrAccessible env) env.strict fresh attrs = .ok record ∧
    Invalid answer {record with userId := some user,workLocation := addr}

/-- Where the request ends in the form again, no row is lost or changed. -/
def LosesNothing (env : Env) (db : Db) (user : Int) (request : ProfileRequest) : Prop :=
  ∀ form, (handle env db (some user) request).2 = .render (.template form) →
    (handle env db (some user) request).1.profiles = db.profiles

theorem destroyTarget_eq_iff {user : Int} {t : Table Profile} : destroyTarget user t = t ↔ ofUser t user = none := by
  unfold destroyTarget
  cases found : ofUser t user with
  | none => simp
  | some row =>
    have stored : t.find? row.id = some row := Table.find?_eq_some.mpr ⟨(ofUser_eq_some found).1,rfl⟩
    refine ⟨fun same => ?_,fun none => by cases none⟩
    exact absurd (congrArg Table.rows same) (Table.delete_rows_ne stored)

theorem create_refused {env : Env} {user : Int} {attrs : Attrs} {addr : Option String} {answer : Geocoding}
    (refused : Refused env user attrs addr answer) (t : Table Profile) :
    create env user attrs addr answer t = (destroyTarget user t,.render (.template .new)) := by
  obtain ⟨record,assigned,invalid⟩ := refused
  simp only [create,assigned,save_eq_rejected.mpr invalid]

theorem refused_of_create {env : Env} {user : Int} {attrs : Attrs} {addr : Option String} {answer : Geocoding}
    {t : Table Profile} {form : Template}
    (shown : (create env user attrs addr answer t).2 = .render (.template form)) :
    Refused env user attrs addr answer := by
  unfold create at shown
  cases assigned : assign (attrAccessible env) env.strict fresh attrs with
  | error e =>
    rw [assigned] at shown
    cases shown
  | ok record =>
    simp only [assigned] at shown
    cases saved : save answer {record with userId := some user,workLocation := addr} with
    | stored stored =>
      rw [saved] at shown
      cases shown
    | raised e =>
      rw [saved] at shown
      cases shown
    | rejected => exact ⟨record,assigned,save_eq_rejected.mp saved⟩

theorem create_losesNothing_iff (env : Env) (db : Db) (user : Int) (attrs : Attrs) (addr : Option String)
    (answer : Geocoding) :
    LosesNothing env db user (.create attrs addr answer) ↔
      (Refused env user attrs addr answer → ofUser db.profiles user = none) := by
  constructor
  · intro keeps refused
    have made := create_refused refused db.profiles
    have kept := keeps .new (by simp only [handle,made])
    simp only [handle,made] at kept
    exact destroyTarget_eq_iff.mp kept
  · intro none form shown
    have refused := refused_of_create shown
    simp only [handle,create_refused refused]
    exact destroyTarget_eq_iff.mpr (none refused)

theorem update_losesNothing (env : Env) (db : Db) (user : Int) (id : String) (attrs : Attrs)
    (addr dob : Option String) (answer : Geocoding) :
    LosesNothing env db user (.update id attrs addr dob answer) := by
  intro form shown
  simp only [handle,update] at shown ⊢
  cases found : db.profiles.find? (Ruby.toI id) with
  | none => rfl
  | some row =>
    simp only [found] at shown ⊢
    cases assigned : assign (attrAccessible env) env.strict {row.val with workLocation := addr,dob := dob} attrs with
    | error e => rfl
    | ok record =>
      simp only [assigned] at shown ⊢
      cases saved : save answer record with
      | rejected => rfl
      | raised e => rfl
      | stored stored =>
        rw [saved] at shown
        cases shown

/-- A form that comes back has cost nothing, exactly when it was not a refused new profile
of a user who has one already. -/
theorem rejected_profile_loses_nothing_iff (env : Env) (db : Db) (user : Int) (attrs : Attrs) (addr : Option String)
    (answer : Geocoding) :
    (LosesNothing env db user (.create attrs addr answer) ↔
      (Refused env user attrs addr answer → ofUser db.profiles user = none)) ∧
    ∀ id dob, LosesNothing env db user (.update id attrs addr dob answer) :=
  ⟨create_losesNothing_iff env db user attrs addr answer,
    fun id dob => update_losesNothing env db user id attrs addr dob answer⟩

/-- An empty form, posted by a user who has a profile. -/
theorem rejected_profile_destroys_stored :
    ¬ LosesNothing .production
      {Db.empty with
        users := Table.empty.insert ⟨"user@example.com"⟩
        profiles := Table.empty.insert {fresh with
          firstName := some "Asha",lastName := some "Rao",mobileNumber := some "9000000000"
          workLocation := some "Kondapur",employer := some "Self",userId := some 1}}
      1 (.create [] none (.accepted none none)) := by
  intro keeps
  have kept := congrArg Table.rows (keeps .new (by decide))
  revert kept
  decide

end ProfilesController
end HyderabadHomes
