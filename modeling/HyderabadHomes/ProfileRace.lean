import HyderabadHomes.App
import HyderabadHomes.Relational.Ownership
import HyderabadHomes.Relational.Race

/-! Profile requests served side by side. The schema has no unique index on
`profiles.user_id`: that a user has one profile rests on `build_profile`, which destroys
the profile it has loaded before the new one is saved. -/
namespace HyderabadHomes
open Relational Transition

inductive ProfileCall
  | new
  | create (attrs : Attrs) (addr : Option String) (answer : Geocoding)
  | update (id : String) (attrs : Attrs) (addr dob : Option String) (answer : Geocoding)

def ProfileCall.request : ProfileCall → ProfileRequest
  | .new => .new
  | .create attrs addr answer => .create attrs addr answer
  | .update id attrs addr dob answer => .update id attrs addr dob answer

namespace Profile

/-- An UPDATE sets the columns that differ from the values loaded. -/
def overwrite (held record current : Profile) : Profile where
  firstName := if record.firstName = held.firstName then current.firstName else record.firstName
  lastName := if record.lastName = held.lastName then current.lastName else record.lastName
  dob := if record.dob = held.dob then current.dob else record.dob
  gender := if record.gender = held.gender then current.gender else record.gender
  mobileNumber := if record.mobileNumber = held.mobileNumber then current.mobileNumber else record.mobileNumber
  alternateNumber :=
    if record.alternateNumber = held.alternateNumber then current.alternateNumber else record.alternateNumber
  workLocation := if record.workLocation = held.workLocation then current.workLocation else record.workLocation
  employer := if record.employer = held.employer then current.employer else record.employer
  userId := if record.userId = held.userId then current.userId else record.userId
  latitude := if record.latitude = held.latitude then current.latitude else record.latitude
  longitude := if record.longitude = held.longitude then current.longitude else record.longitude

theorem overwrite_held (held record : Profile) : overwrite held record held = record := by
  have kept {β : Type} [DecidableEq β] (new old : β) : (if new = old then old else new) = new := by
    split
    · rename_i same
      exact same.symm
    · rfl
  simp only [overwrite,kept]

end Profile

inductive Profiling
  | arrived (currentUser : Option Int) (call : ProfileCall)
  /-- `build_profile` has loaded the association and is about to destroy what it found. -/
  | replacing (loaded : Row Profile) (record : Profile) (answer : Geocoding)
  | inserting (record : Profile) (answer : Geocoding)
  | updating (held : Row Profile) (record : Profile) (answer : Geocoding)
  | finished (response : Response)

namespace Profiling

def write : Profiling → Option (Write Profile)
  | .replacing loaded _ _ => some (.delete loaded.id)
  | .inserting record answer => (Profile.save answer record).record?.map Write.insert
  | .updating held record answer =>
    (Profile.save answer record).record?.map fun stored => .update held.id (Profile.overwrite held.val stored)
  | _ => none

def step (env : Env) (t : Table Profile) : Profiling → Table Profile × Profiling
  | .arrived none .new => (t,.finished (.error .noMethod))
  | .arrived (some user) .new => (t,.finished (ProfilesController.new user t))
  | .arrived none (.create _ _ _) => (t,.finished (.error .noMethod))
  | .arrived (some user) (.create attrs addr answer) =>
    match assign (Profile.attrAccessible env) env.strict Profile.fresh attrs with
    | .error e => (t,.finished (.error e))
    | .ok record =>
      match Profile.ofUser t user with
      | some loaded => (t,.replacing loaded {record with userId := some user,workLocation := addr} answer)
      | none => (t,.inserting {record with userId := some user,workLocation := addr} answer)
  | .arrived _ (.update id attrs addr dob answer) =>
    match t.find? (Ruby.toI id) with
    | none => (t,.finished (.error .recordNotFound))
    | some row =>
      match assign (Profile.attrAccessible env) env.strict {row.val with workLocation := addr,dob := dob} attrs with
      | .error e => (t,.finished (.error e))
      | .ok record => (t,.updating row record answer)
  | .replacing loaded record answer => (t.delete loaded.id,.inserting record answer)
  | .inserting record answer =>
    match Profile.save answer record with
    | .stored stored =>
      (t.insert stored,.finished (.redirect (.usersProfile (t.seq+1)) (some "Profile Created Successfully.")))
    | .rejected => (t,.finished (.render (.template .new)))
    | .raised e => (t,.finished (.error e))
  | .updating held record answer =>
    match Profile.save answer record with
    | .stored stored =>
      (t.update held.id (Profile.overwrite held.val stored),
        .finished (.redirect (.usersProfile held.id) (some "Profile Updated Successfully.")))
    | .rejected => (t,.finished (.render (.template .edit)))
    | .raised e => (t,.finished (.error e))
  | .finished response => (t,.finished response)

theorem step_table (env : Env) (t : Table Profile) (l : Profiling) :
    (step env t l).1 = match l.write with
      | none => t
      | some w => w.apply t := by
  cases l with
  | arrived currentUser call =>
    cases call with
    | new => cases currentUser <;> rfl
    | create attrs addr answer =>
      cases currentUser with
      | none => rfl
      | some user =>
        simp only [step,write]
        cases assign (Profile.attrAccessible env) env.strict Profile.fresh attrs with
        | error e => rfl
        | ok record =>
          simp only
          cases Profile.ofUser t user <;> rfl
    | update id attrs addr dob answer =>
      simp only [step,write]
      cases t.find? (Ruby.toI id) with
      | none => rfl
      | some row =>
        simp only
        cases assign (Profile.attrAccessible env) env.strict {row.val with workLocation := addr,dob := dob} attrs <;> rfl
  | replacing loaded record answer => rfl
  | inserting record answer =>
    simp only [step,write]
    cases Profile.save answer record <;> rfl
  | updating held record answer =>
    simp only [step,write]
    cases Profile.save answer record <;> rfl
  | finished response => rfl

theorem alone_finished (env : Env) (t : Table Profile) (response : Response) (n : Nat) :
    Pool.alone (step env) n (t,.finished response) = (t,.finished response) := Pool.alone_of_fixed (by rfl) n

theorem alone_inserting (env : Env) (t : Table Profile) (record : Profile) (answer : Geocoding) (n : Nat) :
    Pool.alone (step env) (n+1) (t,.inserting record answer) = step env t (.inserting record answer) := by
  rw [Pool.alone]
  cases saved : Profile.save answer record with
  | stored stored => simp only [step,saved,alone_finished]
  | rejected => simp only [step,saved,alone_finished]
  | raised e => simp only [step,saved,alone_finished]

/-- Served alone, a request does what its action does. -/
theorem alone_eq_handle (env : Env) (db : Db) (currentUser : Option Int) (call : ProfileCall) :
    Pool.alone (step env) 3 (db.profiles,.arrived currentUser call) =
      ((ProfilesController.handle env db currentUser call.request).1.profiles,
        .finished (ProfilesController.handle env db currentUser call.request).2) := by
  cases call with
  | new => cases currentUser <;> rfl
  | create attrs addr answer =>
    cases currentUser with
    | none => rfl
    | some user =>
      simp only [ProfileCall.request,ProfilesController.handle,ProfilesController.create]
      cases assigned : assign (Profile.attrAccessible env) env.strict Profile.fresh attrs with
      | error e =>
        have first : step env db.profiles (.arrived (some user) (.create attrs addr answer)) =
            (db.profiles,.finished (.error e)) := by simp only [step,assigned]
        rw [Pool.alone,first,alone_finished]
      | ok record =>
        cases loaded : Profile.ofUser db.profiles user with
        | none =>
          have first : step env db.profiles (.arrived (some user) (.create attrs addr answer)) =
              (db.profiles,.inserting {record with userId := some user,workLocation := addr} answer) := by
            simp only [step,assigned,loaded]
          rw [Pool.alone,first,alone_inserting]
          simp only [step,Profile.destroyTarget,loaded]
          cases Profile.save answer {record with userId := some user,workLocation := addr} <;> rfl
        | some old =>
          have first : step env db.profiles (.arrived (some user) (.create attrs addr answer)) =
              (db.profiles,.replacing old {record with userId := some user,workLocation := addr} answer) := by
            simp only [step,assigned,loaded]
          have second : step env db.profiles (.replacing old {record with userId := some user,workLocation := addr} answer) =
              (db.profiles.delete old.id,.inserting {record with userId := some user,workLocation := addr} answer) := rfl
          rw [Pool.alone,first,Pool.alone,second,alone_inserting]
          simp only [step,Profile.destroyTarget,loaded]
          cases Profile.save answer {record with userId := some user,workLocation := addr} <;> rfl
  | update id attrs addr dob answer =>
    simp only [ProfileCall.request,ProfilesController.handle,ProfilesController.update]
    cases found : db.profiles.find? (Ruby.toI id) with
    | none =>
      have first : step env db.profiles (.arrived currentUser (.update id attrs addr dob answer)) =
          (db.profiles,.finished (.error .recordNotFound)) := by simp only [step,found]
      rw [Pool.alone,first,alone_finished]
    | some row =>
      cases assigned : assign (Profile.attrAccessible env) env.strict {row.val with workLocation := addr,dob := dob} attrs with
      | error e =>
        have first : step env db.profiles (.arrived currentUser (.update id attrs addr dob answer)) =
            (db.profiles,.finished (.error e)) := by simp only [step,found,assigned]
        rw [Pool.alone,first,alone_finished]
        simp only [assigned]
      | ok record =>
        have first : step env db.profiles (.arrived currentUser (.update id attrs addr dob answer)) =
            (db.profiles,.updating row record answer) := by simp only [step,found,assigned]
        rw [Pool.alone,first,Pool.alone]
        cases saved : Profile.save answer record with
        | rejected => simp only [step,saved,alone_finished,assigned]
        | raised e => simp only [step,saved,alone_finished,assigned]
        | stored stored =>
          have same : db.profiles.update row.id (Profile.overwrite row.val stored) =
              db.profiles.update row.id fun _ => stored := by
            have here : db.profiles.find? row.id = some row := by
              rw [(Table.find?_eq_some.mp found).2]
              exact found
            exact Table.update_congr here (Profile.overwrite_held row.val stored)
          simp only [step,saved,alone_finished,assigned,same]

def table (t : Table Profile) (_ : Unit) : Table Profile := t

def writes (l : Profiling) : Option (Unit × Write Profile) := l.write.map fun w => ((),w)

theorem singleWrites (env : Env) : SingleWrites (step env) table writes := by
  intro t l _
  unfold table writes
  rw [step_table]
  cases l.write <;> simp

end Profiling

def Profile.SameOwner (r s : Profile) : Prop := Owns r.userId s.userId

instance : DecidableRel Profile.SameOwner := fun r s => inferInstanceAs (Decidable (Owns r.userId s.userId))

instance : Std.Symm Profile.SameOwner where
  symm r s shared := by
    obtain ⟨user,first,second⟩ := shared
    exact ⟨user,second,first⟩

abbrev profileRace (env : Env) : Pool (Table Profile) Profiling → Schedule (Option Int × ProfileCall) →
    Pool (Table Profile) Profiling :=
  Pool.step (fun r => .arrived r.1 r.2) (Profiling.step env)

abbrev OneProfileEach (t : Table Profile) : Prop := t.Unique Profile.SameOwner

namespace Profiling

def creates : Profiling → Option Int
  | .replacing _ record _ => record.userId
  | .inserting record _ => record.userId
  | _ => none

def claims : Profiling → Option Int
  | .inserting record _ => record.userId
  | .updating held record _ => if record.userId = held.val.userId then none else record.userId
  | _ => none

def Settled (t : Table Profile) : Profiling → Prop
  | .updating held record _ => record.userId ≠ held.val.userId → t.Free Profile.SameOwner (some held.id) record
  | _ => True

instance (t : Table Profile) : DecidablePred (Settled t)
  | .updating held record _ =>
    inferInstanceAs (Decidable (record.userId ≠ held.val.userId → t.Free Profile.SameOwner (some held.id) record))
  | .arrived _ _ | .replacing .. | .inserting .. | .finished _ => inferInstanceAs (Decidable True)

end Profiling

def NoRival (c : Pool (Table Profile) Profiling) : Schedule (Option Int × ProfileCall) → Prop
  | .start _ => True
  | .advance i => ∀ l ∈ c.threads[i]?, l.Settled c.shared ∧ ∀ m ∈ c.threads.eraseIdx i, ¬ Owns l.claims m.creates

instance (c : Pool (Table Profile) Profiling) : DecidablePred (NoRival c)
  | .start _ => inferInstanceAs (Decidable True)
  | .advance i => inferInstanceAs (Decidable
      (∀ l ∈ c.threads[i]?, l.Settled c.shared ∧ ∀ m ∈ c.threads.eraseIdx i, ¬ Owns l.claims m.creates))

namespace Profiling

def Assertion : Profiling → Table Profile → Prop
  | .replacing loaded record _,t => t.Free Profile.SameOwner (some loaded.id) record
  | .inserting record _,t => t.Free Profile.SameOwner none record
  | _,_ => True

theorem assertion_step (env : Env) {t : Table Profile} {l : Profiling} (unique : OneProfileEach t)
    (holds : Assertion l t) : Assertion (step env t l).2 (step env t l).1 := by
  cases l with
  | arrived currentUser call =>
    cases call with
    | new => cases currentUser <;> trivial
    | create attrs addr answer =>
      cases currentUser with
      | none => trivial
      | some user =>
        simp only [step]
        cases assign (Profile.attrAccessible env) env.strict Profile.fresh attrs with
        | error e => trivial
        | ok record =>
          simp only
          cases loaded : Profile.ofUser t user with
          | none =>
            intro row member _ shared
            obtain ⟨owner,owned,same⟩ := shared
            cases same
            exact Profile.ofUser_eq_none.mp loaded row member owned
          | some old =>
            intro row member other shared
            obtain ⟨owner,owned,same⟩ := shared
            cases same
            obtain ⟨inside,own⟩ := Profile.ofUser_eq_some loaded
            exact other (by rw [unique row member old inside ⟨user,owned,own⟩])
    | update id attrs addr dob answer =>
      simp only [step]
      cases t.find? (Ruby.toI id) with
      | none => trivial
      | some row =>
        simp only
        cases assign (Profile.attrAccessible env) env.strict {row.val with workLocation := addr,dob := dob} attrs <;>
          trivial
  | replacing loaded record answer =>
    intro row member _
    obtain ⟨inside,other⟩ := Table.mem_delete.mp member
    exact holds row inside fun same => other (Option.some.inj same).symm
  | inserting record answer =>
    simp only [step]
    cases Profile.save answer record <;> trivial
  | updating held record answer =>
    simp only [step]
    cases Profile.save answer record <;> trivial
  | finished response => trivial

theorem write_inserting {record : Profile} {answer : Geocoding} {w : Write Profile}
    (writes : (inserting record answer).write = some w) :
    ∃ stored, w = .insert stored ∧ stored.userId = record.userId := by
  obtain ⟨stored,saved,rfl⟩ := Option.map_eq_some_iff.mp writes
  exact ⟨stored,rfl,(Profile.save_stored (Saved.record?_eq_some.mp saved)).1⟩

theorem write_updating {held : Row Profile} {record : Profile} {answer : Geocoding} {w : Write Profile}
    (writes : (updating held record answer).write = some w) :
    ∃ change, w = .update held.id change ∧
      ∀ current, (change current).userId = if record.userId = held.val.userId then current.userId else record.userId := by
  obtain ⟨stored,saved,rfl⟩ := Option.map_eq_some_iff.mp writes
  have owner := (Profile.save_stored (Saved.record?_eq_some.mp saved)).1
  refine ⟨_,rfl,fun current => ?_⟩
  simp only [Profile.overwrite,owner]

theorem harmless_of_assertion {t : Table Profile} {l : Profiling} (unique : OneProfileEach t) (holds : Assertion l t)
    (settled : l.Settled t) {w : Write Profile} (writes : l.write = some w) : w.Harmless Profile.SameOwner t := by
  cases l with
  | arrived currentUser call => cases writes
  | finished response => cases writes
  | replacing loaded record answer =>
    cases writes
    trivial
  | inserting record answer =>
    obtain ⟨stored,rfl,owner⟩ := write_inserting writes
    intro row member free same
    rw [Profile.SameOwner,owner] at same
    exact holds row member free same
  | updating held record answer =>
    obtain ⟨change,rfl,owner⟩ := write_updating writes
    intro current found row member other same
    rw [Profile.SameOwner,owner] at same
    split at same
    · -- the profile stays with its owner
      have equal := unique row member current (Table.find?_eq_some.mp found).1 same
      rw [equal,(Table.find?_eq_some.mp found).2] at other
      exact other rfl
    · rename_i moved
      exact settled moved row member other same

theorem assertion_undisturbed {env : Env} {t : Table Profile} {l m : Profiling} (holds : Assertion m t)
    (rival : ¬ Owns l.claims m.creates) : Assertion m (step env t l).1 := by
  rw [step_table]
  cases written : l.write with
  | none => exact holds
  | some w =>
    have apart : ∀ self record, m.creates = record.userId → t.Free Profile.SameOwner self record →
        w.Apart Profile.SameOwner t self record := by
      intro self record creates free
      rw [creates] at rival
      cases l with
      | arrived currentUser call => cases written
      | finished response => cases written
      | replacing loaded record' answer =>
        cases written
        trivial
      | inserting record' answer =>
        obtain ⟨stored,rfl,owner⟩ := write_inserting written
        intro same
        rw [Profile.SameOwner,owner] at same
        exact rival same
      | updating held record' answer =>
        obtain ⟨change,rfl,owner⟩ := write_updating written
        by_cases own : self = some held.id
        · exact .inl own
        · refine .inr fun current found same => ?_
          obtain ⟨inside,hit⟩ := Table.find?_eq_some.mp found
          rw [Profile.SameOwner,owner] at same
          split at same
          · exact free current inside (by rw [hit]; exact own) same
          · rename_i moved
            rw [claims,if_neg moved] at rival
            exact rival same
    cases m with
    | replacing loaded record answer => exact Write.free_apply holds (apart (some loaded.id) record rfl holds)
    | inserting record answer => exact Write.free_apply holds (apart none record rfl holds)
    | _ => trivial

end Profiling

theorem allUnique_iff {t : Table Profile} : AllUnique Profile.SameOwner Profiling.table t ↔ OneProfileEach t :=
  ⟨fun all => all (),fun unique _ => unique⟩

/-- Over any interleaving: users keep at most one profile exactly as long as each statement
still finds the owner it writes without another, which is so where no request gives a row
to a user who has one or is about to. -/
theorem race_profiles_unique_iff (env : Env) {t : Table Profile} (start : OneProfileEach t)
    (acts : List (Schedule (Option Int × ProfileCall))) :
    (Throughout (profileRace env) (fun c => OneProfileEach c.shared) ⟨t,[]⟩ acts ↔
      Along (profileRace env) (StillFree Profile.SameOwner Profiling.table Profiling.writes) ⟨t,[]⟩ acts) ∧
    (Along (profileRace env) NoRival ⟨t,[]⟩ acts →
      Throughout (profileRace env) (fun c => OneProfileEach c.shared) ⟨t,[]⟩ acts) := by
  have single := Profiling.singleWrites env
  simp only [← allUnique_iff] at start ⊢
  constructor
  · exact run_unique_iff single start acts
  · refine run_unique_of_assertions single Profiling.Assertion ?_ ?_ ?_ ?_ start
    · intro request t
      trivial
    · intro t l unique holds
      exact Profiling.assertion_step env (allUnique_iff.mp unique) holds
    · intro c i l admitted found unique holds p writes
      obtain ⟨w,written,rfl⟩ := Option.map_eq_some_iff.mp writes
      exact Profiling.harmless_of_assertion (allUnique_iff.mp unique) holds (admitted l found).1 written
    · intro c i l m admitted found others _ theirs
      exact Profiling.assertion_undisturbed theirs ((admitted l found).2 m others)

def filledIn (user : List (String × Option String)) : Attrs :=
  [("first_name",some "Asha"),("last_name",some "Rao"),("mobile_number",some "9000000000"),
    ("employer",some "Self")] ++ user

def twoProfiles : List (Schedule (Option Int × ProfileCall)) :=
  [.start (some 1,.create (filledIn []) (some "Kondapur") (.accepted none none)),
    .start (some 2,.create (filledIn []) (some "Kondapur") (.accepted none none)),
    .advance 0,.advance 1,.advance 0,.advance 1]

theorem race_of_two_users :
    Throughout (profileRace .production) (fun c => OneProfileEach c.shared) ⟨Table.empty,[]⟩ twoProfiles :=
  (race_profiles_unique_iff .production Table.unique_empty twoProfiles).2 (by decide)

/-- The second user's update names the first user in its hash. -/
theorem update_takes_second_profile :
    ¬ Throughout (profileRace .production) (fun c => OneProfileEach c.shared) ⟨Table.empty,[]⟩
      (twoProfiles ++
        [.start (some 2,.update "2" (filledIn [("user_id",some "1")]) (some "Kondapur") none (.accepted none none)),
          .advance 2,.advance 2]) := by
  intro unique
  rw [throughout_iff_take] at unique
  have twice := unique 9
  revert twice
  decide

/-- Two creates of one user each load the association before the other one inserts. -/
example : ¬ OneProfileEach (run (profileRace .production) ⟨Table.empty,[]⟩
    [.start (some 1,.create (filledIn []) (some "Kondapur") (.accepted none none)),
      .start (some 1,.create (filledIn []) (some "Kondapur") (.accepted none none)),
      .advance 0,.advance 1,.advance 0,.advance 1]).shared := by decide

end HyderabadHomes
