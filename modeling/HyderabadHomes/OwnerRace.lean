import HyderabadHomes.App
import HyderabadHomes.Transition.Interference

/-! Listings created while accounts are cancelled. A creation asks for the current user
before it inserts, and `destroy` loads the dependent rows before it deletes them; the
schema has no foreign key to refuse what happens in between. -/
namespace HyderabadHomes
open Relational Transition

inductive OwnerCall
  | createUserProperty (attrs : Attrs) (addr : Option String) (answer : Geocoding)
  | createUserLookingForProperty (attrs : Attrs) (addr : Option String) (answer : Geocoding)
  | cancel

structure OwnerRequest where
  session : Session
  call : OwnerCall

structure Dependents where
  profile : Option Int
  userProperties : List Int
  userLookingForProperties : List Int
  userContacts : List Int
deriving DecidableEq,Repr

/-- A request between two of its database steps. The deletions of `destroy` become visible
together, when its transaction is committed. -/
inductive Owning
  | arrived (request : OwnerRequest)
  | creatingUserProperty (currentUser : Int) (attrs : Attrs) (addr : Option String) (answer : Geocoding)
  | creatingUserLookingForProperty (currentUser : Int) (attrs : Attrs) (addr : Option String) (answer : Geocoding)
  | loadingProfile (id : Int)
  | loadingUserProperties (id : Int) (loaded : Dependents)
  | loadingUserLookingForProperties (id : Int) (loaded : Dependents)
  | loadingUserContacts (id : Int) (loaded : Dependents)
  | committing (id : Int) (loaded : Dependents)
  | finished (response : Response)

def Dependents.destroy (loaded : Dependents) (id : Int) (db : Db) : Db :=
  {db with
    profiles := db.profiles.keep fun row => loaded.profile != some row.id
    userProperties := db.userProperties.keep fun row => !loaded.userProperties.contains row.id
    userLookingForProperties :=
      db.userLookingForProperties.keep fun row => !loaded.userLookingForProperties.contains row.id
    userContacts := db.userContacts.keep fun row => !loaded.userContacts.contains row.id
    users := db.users.delete id}

def ownedIds {α : Type} (userId : α → Option Int) (t : Table α) (user : Int) : List Int :=
  (t.rows.filter fun row => userId row.val == some user).map Row.id

theorem mem_ownedIds {α : Type} {userId : α → Option Int} {t : Table α} {user : Int} {row : Row α} (member : row ∈ t.rows) :
    row.id ∈ ownedIds userId t user ↔ userId row.val = some user := by
  simp only [ownedIds,List.mem_map,List.mem_filter,beq_iff_eq]
  constructor
  · intro found
    obtain ⟨other,⟨inside,owned⟩,same⟩ := found
    rw [← Table.eq_of_id inside member same]
    exact owned
  · intro owned
    exact ⟨row,⟨member,owned⟩,rfl⟩

namespace Owning

def goodbye : Response :=
  .redirect .root (some "Bye! Your account was successfully cancelled. We hope to see you again soon.")

def step (env : Env) (db : Db) : Owning → Db × Owning
  | .arrived ⟨session,call⟩ =>
    match currentUser db session with
    | none => (db,.finished (.redirect .newUserSession none))
    | some user =>
      match call with
      | .createUserProperty attrs addr answer => (db,.creatingUserProperty user attrs addr answer)
      | .createUserLookingForProperty attrs addr answer => (db,.creatingUserLookingForProperty user attrs addr answer)
      | .cancel => (db,.loadingProfile user)
  | .creatingUserProperty user attrs addr answer =>
    let (t,response) := UserProperty.model.create .usersUserProperty env user attrs addr answer db.userProperties
    ({db with userProperties := t},.finished response)
  | .creatingUserLookingForProperty user attrs addr answer =>
    let (t,response) := UserLookingForProperty.model.create .usersUserLookingForProperty env user attrs addr answer
      db.userLookingForProperties
    ({db with userLookingForProperties := t},.finished response)
  | .loadingProfile id =>
    (db,.loadingUserProperties id ⟨(Profile.ofUser db.profiles id).map Row.id,[],[],[]⟩)
  | .loadingUserProperties id loaded =>
    (db,.loadingUserLookingForProperties id
      {loaded with userProperties := ownedIds UserProperty.userId db.userProperties id})
  | .loadingUserLookingForProperties id loaded =>
    (db,.loadingUserContacts id
      {loaded with userLookingForProperties := ownedIds UserLookingForProperty.userId db.userLookingForProperties id})
  | .loadingUserContacts id loaded =>
    (db,.committing id {loaded with userContacts := ownedIds UserContact.userId db.userContacts id})
  | .committing id loaded => (loaded.destroy id db,.finished goodbye)
  | .finished response => (db,.finished response)

def action : OwnerCall → Action
  | .createUserProperty attrs addr answer => .userProperties (.create attrs addr answer)
  | .createUserLookingForProperty attrs addr answer => .userLookingForProperties (.create attrs addr answer)
  | .cancel => .users .destroy

theorem alone_finished (env : Env) (db : Db) (response : Response) (n : Nat) :
    Pool.alone (step env) n (db,.finished response) = (db,.finished response) := Pool.alone_of_fixed (by rfl) n

theorem keep_ownedIds {α : Type} (userId : α → Option Int) (t : Table α) (user : Int) :
    (t.keep fun row => !(ownedIds userId t user).contains row.id) = t.keep fun row => userId row.val != some user := by
  refine Table.ext_rows (List.filter_congr fun row member => ?_) rfl
  have same : row.id ∈ ownedIds userId t user ↔ userId row.val = some user := mem_ownedIds member
  by_cases owned : userId row.val = some user
  · simp [owned,same.mpr owned]
  · have out : row.id ∉ ownedIds userId t user := fun inside => owned (same.mp inside)
    simp [owned,out]

theorem keep_profile (t : Table Profile) (user : Int) :
    (t.keep fun row => (Profile.ofUser t user).map Row.id != some row.id) = Profile.destroyTarget user t := by
  unfold Profile.destroyTarget
  cases found : Profile.ofUser t user with
  | none =>
    exact Table.ext_rows (List.filter_eq_self.mpr fun row _ => rfl) rfl
  | some old =>
    refine Table.ext_rows (List.filter_congr fun row _ => ?_) rfl
    rw [Bool.eq_iff_iff]
    simp only [bne_iff_ne,ne_eq,Option.map_some,Option.some.injEq]
    exact not_congr eq_comm

theorem destroy_loaded (db : Db) (id : Int) :
    Dependents.destroy ⟨(Profile.ofUser db.profiles id).map Row.id,ownedIds UserProperty.userId db.userProperties id,
      ownedIds UserLookingForProperty.userId db.userLookingForProperties id,
      ownedIds UserContact.userId db.userContacts id⟩ id db = User.destroy id db := by
  simp only [Dependents.destroy,User.destroy,keep_ownedIds,keep_profile]

/-- Served alone, a request does what its action does. -/
theorem alone_eq_serve (env : Env) (db : Db) (request : OwnerRequest) :
    Pool.alone (step env) 6 (db,.arrived request) =
      ((serve env db request.session (action request.call)).1,
        .finished (serve env db request.session (action request.call)).2.2) := by
  obtain ⟨session,call⟩ := request
  cases current : currentUser db session with
  | none =>
    have first : step env db (.arrived ⟨session,call⟩) = (db,.finished (.redirect .newUserSession none)) := by
      simp only [step,current]
    have gone : usersScope.current db session = none := current
    rw [Pool.alone,first,alone_finished]
    cases call with
    | cancel =>
      simp only [action,serve,Scope.handle,gone]
      rfl
    | _ => simp only [action,serve,authenticateUser,current]
  | some user =>
    cases call with
    | createUserProperty attrs addr answer =>
      have first : step env db (.arrived ⟨session,.createUserProperty attrs addr answer⟩) =
          (db,.creatingUserProperty user attrs addr answer) := by
        simp only [step,current]
      rw [Pool.alone,first,Pool.alone,step,alone_finished]
      simp only [action,serve,authenticateUser,current]
      rfl
    | createUserLookingForProperty attrs addr answer =>
      have first : step env db (.arrived ⟨session,.createUserLookingForProperty attrs addr answer⟩) =
          (db,.creatingUserLookingForProperty user attrs addr answer) := by
        simp only [step,current]
      rw [Pool.alone,first,Pool.alone,step,alone_finished]
      simp only [action,serve,authenticateUser,current]
      rfl
    | cancel =>
      have first : step env db (.arrived ⟨session,.cancel⟩) = (db,.loadingProfile user) := by
        simp only [step,current]
      have here : usersScope.current db session = some user := current
      rw [Pool.alone,first]
      simp only [Pool.alone,step,destroy_loaded,action,serve,Scope.handle,here]
      rfl

end Owning

abbrev ownerRace (env : Env) : Pool Db Owning → Schedule OwnerRequest → Pool Db Owning :=
  Pool.step Owning.arrived (Owning.step env)

def Owned (db : Db) : Prop :=
  ForeignKey UserProperty.userId db.userProperties db.users ∧
    ForeignKey UserLookingForProperty.userId db.userLookingForProperties db.users

namespace Owning

def LeavesOwned (env : Env) (db : Db) : Owning → Prop
  | .creatingUserProperty user attrs addr answer =>
    (UserProperty.model.created env user attrs addr answer).isSome → Refers (some user) db.users
  | .creatingUserLookingForProperty user attrs addr answer =>
    (UserLookingForProperty.model.created env user attrs addr answer).isSome → Refers (some user) db.users
  | .committing id loaded =>
    (∀ row ∈ db.userProperties.rows, row.val.userId = some id → row.id ∈ loaded.userProperties) ∧
      ∀ row ∈ db.userLookingForProperties.rows, row.val.userId = some id → row.id ∈ loaded.userLookingForProperties
  | _ => True

theorem created_foreignKey_iff {α : Type} {m : ListingModel α} {t : Table α} {users : Table User}
    (whole : ForeignKey m.userId t users) (path : Int → Path) (env : Env) (user : Int) (attrs : Attrs)
    (addr : Option String) (answer : Geocoding) :
    ForeignKey m.userId (m.create path env user attrs addr answer t).1 users ↔
      ((m.created env user attrs addr answer).isSome → Refers (some user) users) := by
  rw [ListingModel.create_table]
  cases made : m.created env user attrs addr answer with
  | none => simp [whole]
  | some stored =>
    have owner := (ListingModel.created_ids made).1
    simp only [Option.map_some,Option.getD_some,Option.isSome_some,true_implies]
    rw [whole.insert_child_iff,owner]

theorem destroy_foreignKey_iff {α : Type} {userId : α → Option Int} {t : Table α} {users : Table User}
    (whole : ForeignKey userId t users) (loaded : List Int) (id : Int) :
    ForeignKey userId (t.keep fun row => !loaded.contains row.id) (users.delete id) ↔
      ∀ row ∈ t.rows, userId row.val = some id → row.id ∈ loaded := by
  rw [whole.delete_family_iff]
  constructor
  · intro free row member owned
    by_contra unloaded
    exact free row member (by simpa using unloaded) owned
  · intro covered row member kept owned
    have listed := covered row member owned
    simp [listed] at kept

theorem step_owned_iff (env : Env) {db : Db} (whole : Owned db) (l : Owning) :
    Owned (step env db l).1 ↔ l.LeavesOwned env db := by
  obtain ⟨owned,wanted⟩ := whole
  cases l with
  | arrived request =>
    obtain ⟨session,call⟩ := request
    refine ⟨fun _ => trivial,fun _ => ?_⟩
    simp only [step]
    cases currentUser db session with
    | none => exact ⟨owned,wanted⟩
    | some user => cases call <;> exact ⟨owned,wanted⟩
  | creatingUserProperty user attrs addr answer =>
    have exactly := created_foreignKey_iff (m := UserProperty.model) owned .usersUserProperty env user attrs addr answer
    exact ⟨fun after => exactly.mp after.1,fun here => ⟨exactly.mpr here,wanted⟩⟩
  | creatingUserLookingForProperty user attrs addr answer =>
    have exactly := created_foreignKey_iff (m := UserLookingForProperty.model) wanted .usersUserLookingForProperty env user
      attrs addr answer
    exact ⟨fun after => exactly.mp after.2,fun here => ⟨owned,exactly.mpr here⟩⟩
  | committing id loaded =>
    exact and_congr (destroy_foreignKey_iff owned loaded.userProperties id)
      (destroy_foreignKey_iff wanted loaded.userLookingForProperties id)
  | _ => exact ⟨fun _ => trivial,fun _ => ⟨owned,wanted⟩⟩

end Owning

def CommitsOwned (env : Env) (c : Pool Db Owning) : Schedule OwnerRequest → Prop
  | .start _ => True
  | .advance i => ∀ l ∈ c.threads[i]?, l.LeavesOwned env c.shared

theorem ownerRace_step_iff (env : Env) (c : Pool Db Owning) (act : Schedule OwnerRequest) (whole : Owned c.shared) :
    Owned (ownerRace env c act).shared ↔ CommitsOwned env c act := by
  cases act with
  | start request => exact ⟨fun _ => trivial,fun _ => whole⟩
  | advance i =>
    cases found : c.threads[i]? with
    | none => simp [Pool.step,CommitsOwned,found,whole]
    | some l =>
      simp only [Pool.step,CommitsOwned,found,Option.mem_some,forall_eq']
      exact Owning.step_owned_iff env whole l

namespace Owning

def creates : Owning → Option Int
  | .creatingUserProperty user _ _ _ => some user
  | .creatingUserLookingForProperty user _ _ _ => some user
  | _ => none

def cancels : Owning → Option Int
  | .loadingProfile id => some id
  | .loadingUserProperties id _ => some id
  | .loadingUserLookingForProperties id _ => some id
  | .loadingUserContacts id _ => some id
  | .committing id _ => some id
  | _ => none

def Overlaps (l m : Owning) : Prop := l.creates.isSome ∧ l.creates = m.cancels

instance (l m : Owning) : Decidable (Overlaps l m) := inferInstanceAs (Decidable (_ ∧ _))

def Covers {α : Type} (userId : α → Option Int) (t : Table α) (id : Int) (loaded : List Int) : Prop :=
  ∀ row ∈ t.rows, userId row.val = some id → row.id ∈ loaded

def Assertion : Owning → Db → Prop
  | .creatingUserProperty user _ _ _,db => Refers (some user) db.users
  | .creatingUserLookingForProperty user _ _ _,db => Refers (some user) db.users
  | .loadingUserLookingForProperties id loaded,db => Covers UserProperty.userId db.userProperties id loaded.userProperties
  | .loadingUserContacts id loaded,db =>
    Covers UserProperty.userId db.userProperties id loaded.userProperties ∧
      Covers UserLookingForProperty.userId db.userLookingForProperties id loaded.userLookingForProperties
  | .committing id loaded,db =>
    Covers UserProperty.userId db.userProperties id loaded.userProperties ∧
      Covers UserLookingForProperty.userId db.userLookingForProperties id loaded.userLookingForProperties
  | _,_ => True

theorem leavesOwned_of_assertion {env : Env} {db : Db} {l : Owning} (holds : Assertion l db) : l.LeavesOwned env db := by
  cases l with
  | creatingUserProperty user attrs addr answer => exact fun _ => holds
  | creatingUserLookingForProperty user attrs addr answer => exact fun _ => holds
  | committing id loaded => exact holds
  | _ => trivial

theorem covers_ownedIds {α : Type} (userId : α → Option Int) (t : Table α) (id : Int) :
    Covers userId t id (ownedIds userId t id) := fun _ member owned => (mem_ownedIds member).mpr owned

theorem Covers.keep {α : Type} {userId : α → Option Int} {t : Table α} {id : Int} {loaded : List Int}
    (covers : Covers userId t id loaded) (kept : Row α → Bool) : Covers userId (t.keep kept) id loaded :=
  fun row member => covers row (Table.mem_keep.mp member).1

/-- A listing of somebody else joins no list that has been loaded. -/
theorem Covers.create {α : Type} {m : ListingModel α} {t : Table α} {id : Int} {loaded : List Int}
    (covers : Covers m.userId t id loaded) (path : Int → Path) (env : Env) {user : Int} (other : user ≠ id) (attrs : Attrs)
    (addr : Option String) (answer : Geocoding) :
    Covers m.userId (m.create path env user attrs addr answer t).1 id loaded := by
  rw [ListingModel.create_table]
  cases made : m.created env user attrs addr answer with
  | none => exact covers
  | some stored =>
    intro row member owned
    rcases Table.mem_insert.mp member with old | new
    · exact covers row old owned
    · have owner := (ListingModel.created_ids made).1
      rw [new] at owned
      exact absurd (Option.some.inj (owner.symm.trans owned)) other

theorem assertion_arrived (env : Env) (db : Db) (request : OwnerRequest) :
    Assertion (step env db (.arrived request)).2 (step env db (.arrived request)).1 := by
  obtain ⟨session,call⟩ := request
  cases current : currentUser db session with
  | none =>
    simp only [step,current]
    trivial
  | some user =>
    have stored := currentUser_refers current
    cases call with
    | createUserProperty attrs addr answer =>
      simp only [step,current]
      exact stored
    | createUserLookingForProperty attrs addr answer =>
      simp only [step,current]
      exact stored
    | cancel =>
      simp only [step,current]
      trivial

theorem assertion_step (env : Env) {db : Db} {l : Owning} (holds : Assertion l db) :
    Assertion (step env db l).2 (step env db l).1 := by
  cases l with
  | arrived request => exact assertion_arrived env db request
  | loadingUserProperties id loaded => exact covers_ownedIds _ _ _
  | loadingUserLookingForProperties id loaded => exact ⟨holds,covers_ownedIds _ _ _⟩
  | loadingUserContacts id loaded => exact holds
  | _ => trivial

theorem refers_delete {users : Table User} {user id : Int} (refers : Refers (some user) users) (other : user ≠ id) :
    Refers (some user) (users.delete id) := by
  obtain ⟨i,member,same⟩ := refers_iff_ids.mp refers
  cases same
  exact refers_iff_ids.mpr ⟨user,Table.mem_ids_delete.mpr ⟨member,other⟩,rfl⟩

theorem assertion_past_creation (env : Env) {db : Db} {l m : Owning} (holds : Assertion m db)
    (creates : l.creates.isSome) (apart : ¬ Overlaps l m) : Assertion m (step env db l).1 := by
  have other : ∀ user id, l.creates = some user → m.cancels = some id → user ≠ id := by
    intro user id creating cancelling same
    exact apart ⟨creates,by rw [creating,cancelling,same]⟩
  cases l with
  | creatingUserProperty user attrs addr answer =>
    have kept (id : Int) (loaded : List Int) (different : user ≠ id)
        (covers : Covers UserProperty.userId db.userProperties id loaded) :=
      Covers.create (m := UserProperty.model) covers .usersUserProperty env different attrs addr answer
    cases m with
    | loadingUserLookingForProperties id loaded => exact kept _ _ (other user id rfl rfl) holds
    | loadingUserContacts id loaded => exact ⟨kept _ _ (other user id rfl rfl) holds.1,holds.2⟩
    | committing id loaded => exact ⟨kept _ _ (other user id rfl rfl) holds.1,holds.2⟩
    | _ => exact holds
  | creatingUserLookingForProperty user attrs addr answer =>
    have kept (id : Int) (loaded : List Int) (different : user ≠ id)
        (covers : Covers UserLookingForProperty.userId db.userLookingForProperties id loaded) :=
      Covers.create (m := UserLookingForProperty.model) covers .usersUserLookingForProperty env different attrs addr answer
    cases m with
    | loadingUserContacts id loaded => exact ⟨holds.1,kept _ _ (other user id rfl rfl) holds.2⟩
    | committing id loaded => exact ⟨holds.1,kept _ _ (other user id rfl rfl) holds.2⟩
    | _ => exact holds
  | _ => simp [Owning.creates] at creates

theorem assertion_past_commit (env : Env) {db : Db} {id : Int} {loaded : Dependents} {m : Owning} (holds : Assertion m db)
    (apart : m.creates ≠ some id) : Assertion m (step env db (.committing id loaded)).1 := by
  cases m with
  | creatingUserProperty user attrs addr answer => exact refers_delete holds fun same => apart (by rw [same]; rfl)
  | creatingUserLookingForProperty user attrs addr answer =>
    exact refers_delete holds fun same => apart (by rw [same]; rfl)
  | loadingUserLookingForProperties user listed => exact Covers.keep holds _
  | loadingUserContacts user listed => exact ⟨holds.1.keep _,holds.2.keep _⟩
  | committing user listed => exact ⟨holds.1.keep _,holds.2.keep _⟩
  | _ => trivial

theorem step_reads_only {env : Env} {db : Db} {l : Owning} (creates : l.creates = none)
    (uncommitted : ∀ id loaded, l ≠ .committing id loaded) : (step env db l).1 = db := by
  cases l with
  | arrived request =>
    obtain ⟨session,call⟩ := request
    simp only [step]
    cases currentUser db session with
    | none => rfl
    | some user => cases call <;> rfl
  | creatingUserProperty user attrs addr answer => cases creates
  | creatingUserLookingForProperty user attrs addr answer => cases creates
  | committing id loaded => exact absurd rfl (uncommitted id loaded)
  | _ => rfl

theorem assertion_undisturbed (env : Env) {db : Db} {l m : Owning} (holds : Assertion m db) (apart : ¬ Overlaps l m)
    (apart' : ¬ Overlaps m l) : Assertion m (step env db l).1 := by
  by_cases creating : l.creates.isSome
  · exact assertion_past_creation env holds creating apart
  · by_cases commits : ∃ id loaded, l = .committing id loaded
    · obtain ⟨id,loaded,rfl⟩ := commits
      refine assertion_past_commit env holds fun same => apart' ⟨by rw [same]; rfl,same⟩
    · rw [step_reads_only (by simpa using creating) fun id loaded same => commits ⟨id,loaded,same⟩]
      exact holds

end Owning

def NoneOverlaps (c : Pool Db Owning) : Schedule OwnerRequest → Prop
  | .start _ => True
  | .advance i => ∀ l ∈ c.threads[i]?, ∀ m ∈ c.threads.eraseIdx i, ¬ l.Overlaps m ∧ ¬ m.Overlaps l

instance (c : Pool Db Owning) : DecidablePred (NoneOverlaps c)
  | .start _ => inferInstanceAs (Decidable True)
  | .advance i => inferInstanceAs (Decidable
      (∀ l ∈ c.threads[i]?, ∀ m ∈ c.threads.eraseIdx i, ¬ l.Overlaps m ∧ ¬ m.Overlaps l))

/-- Over any interleaving: every listing keeps an owner exactly as long as each commit
still finds the account it inserts for, or no listing besides those it deletes; and so it
is where no request creates a listing for an account that another one is deleting. -/
theorem race_keeps_owners_iff (env : Env) {db : Db} (start : Owned db) (acts : List (Schedule OwnerRequest)) :
    (Throughout (ownerRace env) (fun c => Owned c.shared) ⟨db,[]⟩ acts ↔
      Along (ownerRace env) (CommitsOwned env) ⟨db,[]⟩ acts) ∧
    (Along (ownerRace env) NoneOverlaps ⟨db,[]⟩ acts → Throughout (ownerRace env) (fun c => Owned c.shared) ⟨db,[]⟩ acts) := by
  constructor
  · exact throughout_iff_along _ (I := fun c : Pool Db Owning => Owned c.shared) (ownerRace_step_iff env) start acts
  · intro admitted
    have keeps := @Pool.inductive_step Db Owning OwnerRequest Owning.arrived (Owning.step env) Owned Owning.Assertion
      NoneOverlaps (fun _ _ _ => trivial)
      (fun c i l _ _ whole holds =>
        ⟨(Owning.step_owned_iff env whole l).mpr (Owning.leavesOwned_of_assertion holds),Owning.assertion_step env holds⟩)
      (fun c i j l m apart found other distinct _ _ theirs => by
        have beside : m ∈ c.threads.eraseIdx i := List.mem_eraseIdx_iff_getElem?.mpr ⟨j,fun same => distinct same.symm,other⟩
        obtain ⟨free,free'⟩ := apart l found m beside
        exact Owning.assertion_undisturbed env theirs free free')
    have start' : Pool.Holds Owned Owning.Assertion (⟨db,[]⟩ : Pool Db Owning) := ⟨start,fun l member => by cases member⟩
    have always := Along.throughout _ keeps start' admitted
    rw [throughout_iff_take] at always ⊢
    exact fun n => (always n).1

def twoAccounts : Db := {Db.empty with users := (Db.empty.users.insert ⟨"a@x"⟩).insert ⟨"b@x"⟩}

def listFlat (user : Int) : OwnerRequest :=
  ⟨{Session.empty with user := some user},
    .createUserProperty [("property_id",some "1"),("ownership_type_id",some "1")] (some "Hyderabad")
      (.accepted none none)⟩

def cancelAccount (user : Int) : OwnerRequest := ⟨{Session.empty with user := some user},.cancel⟩

/-- The second user lists a flat while the first one leaves. -/
theorem race_of_listing_and_leaving :
    Throughout (ownerRace .production) (fun c => Owned c.shared) ⟨twoAccounts,[]⟩
      [.start (cancelAccount 1),.start (listFlat 2),.advance 0,.advance 1,.advance 0,.advance 0,.advance 0,.advance 0,
        .advance 1,.advance 0] :=
  (race_keeps_owners_iff .production ⟨.empty _,.empty _⟩ _).2 (by decide)

/-- A user who is signed in twice leaves in one browser between the two steps of the other. -/
example :
    let after := run (ownerRace .production) ⟨twoAccounts,[]⟩
      ([.start (listFlat 1),.start (cancelAccount 1),.advance 0] ++ .replicate 6 (.advance 1) ++ [.advance 0])
    after.shared.userProperties.rows.map (fun row => row.val.userId) = [some 1] ∧ after.shared.users.ids = [2] := by
  decide

end HyderabadHomes
