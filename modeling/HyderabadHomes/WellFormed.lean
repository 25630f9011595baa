import HyderabadHomes.CatalogRace
import HyderabadHomes.Relational.Check
import HyderabadHomes.Tables
import HyderabadHomes.Transition.Run

/-! What every stored row satisfies: the validations and the limits that were checked when
it was saved, and the uniqueness of emails and names. No later request undoes them. -/
namespace HyderabadHomes
open Relational Transition

def User.SameEmail (u v : User) : Prop := u.email = v.email

def Administrator.SameEmail (a b : Administrator) : Prop := a.email = b.email

instance : Std.Symm User.SameEmail := ⟨fun _ _ same => same.symm⟩

instance : Std.Symm Administrator.SameEmail := ⟨fun _ _ same => same.symm⟩

namespace TableName

def Sound (env : Env) : (n : TableName) → Table n.Record → Prop
  | .users,t => t.Check (fun u => u.email.length ≤ stringLimit) ∧ t.Unique User.SameEmail
  | .administrators,t => t.Check (fun a => a.valid = true ∧ a.fits = true) ∧ t.Unique Administrator.SameEmail
  | .profiles,t => t.Check fun p => p.valid = true ∧ p.fits = true
  | .properties,t => t.Check (fun r => r.fits = true) ∧ t.Unique (Named.SameName env)
  | .ownershipTypes,t => t.Check (fun r => r.fits = true) ∧ t.Unique (Named.SameName env)
  | .lookingFors,t => t.Check (fun r => r.fits = true) ∧ t.Unique (Named.SameName env)
  | .userContacts,t => t.Check fun c => c.fits = true
  | .userLookingForProperties,t => t.Check fun r => r.valid = true ∧ r.fits = true
  | .userProperties,t => t.Check fun r => r.valid = true ∧ r.fits = true

end TableName

namespace Db

def WellFormed (env : Env) (db : Db) : Prop := ∀ n : TableName, n.Sound env (db.table n)

namespace WellFormed
variable {env : Env} {db : Db}

theorem empty (env : Env) : WellFormed env Db.empty := by
  intro n
  cases n with
  | profiles => exact fun _ member => nomatch member
  | userContacts => exact fun _ member => nomatch member
  | userLookingForProperties => exact fun _ member => nomatch member
  | userProperties => exact fun _ member => nomatch member
  | _ => exact ⟨.empty,Table.unique_empty⟩

theorem setTable (h : WellFormed env db) (n : TableName) {t : Table n.Record} (sound : n.Sound env t) :
    WellFormed env (db.setTable n t) := by
  intro m
  by_cases here : m = n
  · subst here
    rw [table_setTable_self]
    exact sound
  · rw [table_setTable_of_ne db t here]
    exact h m

end WellFormed
end Db

namespace ListingModel
variable {α : Type} {m : ListingModel α}

abbrev Checked (m : ListingModel α) (r : α) : Prop := m.valid r = true ∧ m.fits r = true

theorem save_checked (located : ∀ x y r, m.valid (m.locate x y r) = m.valid r) {answer : Geocoding} {record stored : α}
    (ok : m.save answer record = .stored stored) : m.Checked stored := by
  obtain ⟨latitude,longitude,_,accepted,fit,rfl⟩ := saveGeocoded_stored ok
  exact ⟨(located _ _ _).trans accepted,fit⟩

theorem created_checked (located : ∀ x y r, m.valid (m.locate x y r) = m.valid r) {env : Env} {currentUser : Int}
    {attrs : Attrs} {addr : Option String} {answer : Geocoding} {stored : α}
    (made : m.created env currentUser attrs addr answer = some stored) : m.Checked stored := by
  obtain ⟨record,_,saved⟩ := Option.bind_eq_some_iff.mp made
  exact save_checked located (Saved.record?_eq_some.mp saved)

theorem updated_checked (located : ∀ x y r, m.valid (m.locate x y r) = m.valid r) {env : Env} {currentUser : Int}
    {held stored : α} {attrs : Attrs} {answer : Geocoding}
    (made : m.updated env currentUser held attrs answer = some stored) : m.Checked stored := by
  obtain ⟨record,_,saved⟩ := updated_eq_some.mp made
  exact save_checked located saved

end ListingModel

theorem ListingRequest.apply_checked {α : Type} {m : ListingModel α}
    (located : ∀ x y r, m.valid (m.locate x y r) = m.valid r) (env : Env) (currentUser : Int) {t : Table α}
    (check : t.Check m.Checked) (request : ListingRequest α) : (request.apply m env currentUser t).Check m.Checked := by
  cases request with
  | create attrs addr answer =>
    simp only [apply]
    cases made : m.created env currentUser attrs addr answer with
    | none => exact check
    | some stored => exact check.insert (ListingModel.created_checked located made)
  | update id attrs answer => exact check.rewrite _ fun _ _ _ made => ListingModel.updated_checked located made
  | destroy id => exact check.delete _
  | _ => exact check

theorem HomeController.saveCopies_checked (user : Int) (answer : Row UserLookingForProperty → Geocoding)
    (products : List (Row UserLookingForProperty)) {t : Table UserLookingForProperty}
    (check : t.Check UserLookingForProperty.model.Checked) :
    (saveCopies user answer products t).1.Check UserLookingForProperty.model.Checked := by
  induction products generalizing t with
  | nil => exact check
  | cons product rest ih =>
    unfold saveCopies
    cases saved : UserLookingForProperty.model.save (answer product) (copyOf user product.val) with
    | raised e => exact check
    | rejected => exact ih check
    | stored stored =>
      have checked : UserLookingForProperty.model.Checked stored := ListingModel.save_checked (fun _ _ _ => rfl) saved
      exact ih (check.insert checked)

theorem HomeController.createProperties_checked (currentUser : Option Int) (property : Option (List (Option String)))
    (answer : Row UserLookingForProperty → Geocoding) {t : Table UserLookingForProperty}
    (check : t.Check UserLookingForProperty.model.Checked) :
    (createProperties currentUser property answer t).1.Check UserLookingForProperty.model.Checked := by
  unfold createProperties
  cases property with
  | none => exact check
  | some ids =>
    cases found : findMany t ids with
    | error e =>
      simp only [found]
      exact check
    | ok products =>
      cases currentUser with
      | none =>
        simp only [found]
        exact check
      | some user =>
        have copied := saveCopies_checked user answer products check
        simp only [found]
        rcases outcome : saveCopies user answer products t with ⟨t',e⟩
        rw [outcome] at copied
        cases e <;> exact copied

theorem Profile.save_checked {answer : Geocoding} {record stored : Profile} (ok : save answer record = .stored stored) :
    stored.valid = true ∧ stored.fits = true := by
  obtain ⟨latitude,longitude,_,accepted,fit,rfl⟩ := saveGeocoded_stored ok
  exact ⟨accepted,fit⟩

theorem Profile.destroyTarget_check {P : Profile → Prop} {t : Table Profile} (check : t.Check P) (user : Int) :
    (destroyTarget user t).Check P := fun row member => check row (mem_destroyTarget member)

theorem ProfileRequest.apply_checked (env : Env) (currentUser : Option Int) {t : Table Profile}
    (check : t.Check fun p => p.valid = true ∧ p.fits = true) (request : ProfileRequest) :
    (request.apply env currentUser t).Check fun p => p.valid = true ∧ p.fits = true := by
  cases request with
  | create attrs addr answer =>
    cases currentUser with
    | none => exact check
    | some user =>
      simp only [apply]
      rcases ProfilesController.create_table env user attrs addr answer t with ⟨stored,made,table⟩ | ⟨_,same | gone⟩
      · obtain ⟨record,_,saved⟩ := Option.bind_eq_some_iff.mp made
        rw [table]
        exact (Profile.destroyTarget_check check user).insert (Profile.save_checked (Saved.record?_eq_some.mp saved))
      · rw [same]
        exact check
      · rw [gone]
        exact Profile.destroyTarget_check check user
  | update id attrs addr dob answer =>
    refine check.rewrite _ fun row stored _ made => ?_
    obtain ⟨record,_,saved⟩ := Option.bind_eq_some_iff.mp made
    exact Profile.save_checked (Saved.record?_eq_some.mp saved)
  | _ => exact check

theorem Named.accepted_sound {env : Env} {t : Table Named} {self : Option Int} {held record : Named} {attrs : Attrs}
    (made : accepted env t self held attrs = some record) :
    record.fits = true ∧ t.Free (SameName env) self record := by
  unfold accepted at made
  cases assigned : assign attrAccessible env.strict held attrs with
  | error e => simp [assigned] at made
  | ok next =>
    simp only [assigned] at made
    split at made
    · cases made
    · rename_i passed
      cases made
      simp only [Bool.or_eq_true,Bool.not_eq_true',not_or,Bool.not_eq_true,Bool.not_eq_false] at passed
      exact ⟨passed.2,(taken_eq_false passed.2).mp passed.1⟩

theorem CatalogRequest.apply_sound (env : Env) {t : Table Named}
    (sound : t.Check (fun r => r.fits = true) ∧ t.Unique (Named.SameName env)) (request : CatalogRequest) :
    (request.apply env t).Check (fun r => r.fits = true) ∧ (request.apply env t).Unique (Named.SameName env) := by
  obtain ⟨check,unique⟩ := sound
  cases request with
  | create attrs =>
    simp only [apply]
    cases made : Named.accepted env t none Named.fresh attrs with
    | none => exact ⟨check,unique⟩
    | some record =>
      obtain ⟨fit,free⟩ := Named.accepted_sound made
      exact ⟨check.insert fit,(Table.unique_insert_iff unique record).mpr free⟩
  | update id attrs =>
    refine ⟨check.rewrite _ fun row record _ made => (Named.accepted_sound made).1,unique.rewrite _ ?_⟩
    intro row record found made
    rw [← (Table.find?_eq_some.mp found).2]
    exact (Named.accepted_sound made).2
  | destroy id => exact ⟨check.delete _,unique.delete _⟩
  | _ => exact ⟨check,unique⟩

theorem UsersDashboard.saveContacts_checked (email : List String) {t : Table UserContact}
    (check : t.Check fun c => c.fits = true) : (saveContacts email t).1.Check fun c => c.fits = true := by
  induction email generalizing t with
  | nil => exact check
  | cons value rest ih =>
    unfold saveContacts
    cases contactOf value with
    | error e => exact check
    | ok contact =>
      simp only
      split
      · rename_i fit
        exact ih (check.insert fit)
      · exact check

theorem uniqueEmail_sound {α : Type} {email : α → String} {t : Table α} {self : Option Int} {record : α}
    (storable : uniqueEmail email t self record = true) :
    (email record).length ≤ stringLimit ∧ t.Free (fun r s => email r = email s) self record := by
  simp only [uniqueEmail,Bool.and_eq_true,decide_eq_true_eq,List.all_eq_true,Bool.or_eq_true,beq_iff_eq,bne_iff_ne] at storable
  exact ⟨storable.1,fun row member other => (storable.2 row member).resolve_left other⟩

namespace Db.WellFormed
variable {env : Env} {db db' : Db}

theorem destroy_user (h : WellFormed env db) (id : Int) : WellFormed env (User.destroy id db) := by
  intro n
  cases n with
  | users => exact ⟨(h .users).1.delete id,(h .users).2.delete id⟩
  | profiles =>
    have check : db.profiles.Check fun p => p.valid = true ∧ p.fits = true := h .profiles
    exact Profile.destroyTarget_check check id
  | userContacts =>
    have check : db.userContacts.Check fun c => c.fits = true := h .userContacts
    exact check.keep _
  | userLookingForProperties =>
    have check : db.userLookingForProperties.Check fun r => r.valid = true ∧ r.fits = true := h .userLookingForProperties
    exact check.keep _
  | userProperties =>
    have check : db.userProperties.Check fun r => r.valid = true ∧ r.fits = true := h .userProperties
    exact check.keep _
  | _ => exact h _

theorem users_request (h : WellFormed env db) {session session' : Session} {request : AccountRequest User}
    (handled : usersScope.Handled db session request db' session') : WellFormed env db' := by
  have check : db.users.Check fun u => u.email.length ≤ stringLimit := (h .users).1
  have unique : db.users.Unique User.SameEmail := (h .users).2
  cases handled with
  | signedUp record accepted valid storable =>
    obtain ⟨fit,free⟩ := uniqueEmail_sound storable
    exact h.setTable .users ⟨check.insert fit,(Table.unique_insert_iff unique record).mpr free⟩
  | updated id record accepted current valid storable =>
    obtain ⟨fit,free⟩ := uniqueEmail_sound storable
    obtain ⟨row,member,same⟩ := currentUser_refers current
    cases same
    have found := Table.find?_eq_some.mpr ⟨member,rfl⟩
    exact h.setTable .users ⟨check.update row.id fit,(Table.unique_update_iff unique found fun _ => record).mpr free⟩
  | destroyed id current => exact h.destroy_user id
  | _ => exact h

theorem administrators_request (h : WellFormed env db) {session session' : Session} {request : AccountRequest Administrator}
    (handled : administratorsScope.Handled db session request db' session') : WellFormed env db' := by
  have check : db.administrators.Check fun a => a.valid = true ∧ a.fits = true := (h .administrators).1
  have unique : db.administrators.Unique Administrator.SameEmail := (h .administrators).2
  cases handled with
  | signedUp record accepted valid storable =>
    have both := Bool.and_eq_true_iff.mp storable
    exact h.setTable .administrators ⟨check.insert ⟨valid,both.2⟩,
      (Table.unique_insert_iff unique record).mpr (uniqueEmail_sound both.1).2⟩
  | updated id record accepted current valid storable =>
    have both := Bool.and_eq_true_iff.mp storable
    obtain ⟨_,stored⟩ := Option.filter_eq_some_iff.mp current
    obtain ⟨row,found⟩ := Option.isSome_iff_exists.mp stored
    exact h.setTable .administrators ⟨check.update id ⟨valid,both.2⟩,
      (Table.unique_update_iff unique found fun _ => record).mpr (uniqueEmail_sound both.1).2⟩
  | destroyed id current => exact h.setTable .administrators ⟨check.delete id,unique.delete id⟩
  | _ => exact h

theorem action (h : WellFormed env db) (session : Session) (action : Action) :
    WellFormed env (action.apply env db session) := by
  cases action with
  | home request =>
    cases request with
    | createProperties property answer =>
      exact h.setTable .userLookingForProperties
        (HomeController.createProperties_checked (currentUser db session) property answer (h .userLookingForProperties))
    | _ => exact h
  | userProperties request =>
    simp only [Action.apply]
    cases currentUser db session with
    | none => exact h
    | some user =>
      exact h.setTable .userProperties
        (ListingRequest.apply_checked (m := UserProperty.model) (fun _ _ _ => rfl) env user (h .userProperties) request)
  | userLookingForProperties request =>
    simp only [Action.apply]
    cases currentUser db session with
    | none => exact h
    | some user =>
      exact h.setTable .userLookingForProperties
        (ListingRequest.apply_checked (m := UserLookingForProperty.model) (fun _ _ _ => rfl) env user
          (h .userLookingForProperties) request)
  | profiles request => exact h.setTable .profiles (ProfileRequest.apply_checked env _ (h .profiles) request)
  | usersDashboard request =>
    cases request with
    | createContacts email =>
      cases email with
      | none => exact h
      | some email => exact h.setTable .userContacts (UsersDashboard.saveContacts_checked email (h .userContacts))
    | _ => exact h
  | catalogs c request =>
    simp only [Action.apply]
    cases c.controller.target request with
    | properties => exact h.setTable .properties (request.apply_sound env (h .properties))
    | ownershipTypes => exact h.setTable .ownershipTypes (request.apply_sound env (h .ownershipTypes))
    | lookingFors => exact h.setTable .lookingFors (request.apply_sound env (h .lookingFors))
  | administratorsDashboard => exact h
  | administratorsDashboardMissing _ => exact h
  | users request => exact h.users_request (usersScope.handle_handled db session request)
  | administrators request => exact h.administrators_request (administratorsScope.handle_handled db session request)

end Db.WellFormed

end HyderabadHomes
