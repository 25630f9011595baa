import HyderabadHomes.App
import HyderabadHomes.Transition.Run

/-! The profile links of the page header. They carry the id of the user where the
controller looks up the id of a profile, and each table has a sequence of its own. -/
namespace HyderabadHomes
open Relational Transition

structure AccountMenu where
  viewProfile : String
  updateProfile : String
deriving DecidableEq,Repr

def accountMenu (currentUser : Int) (t : Table Profile) : Option AccountMenu :=
  match Profile.ofUser t currentUser with
  | none => none
  | some _ => some ⟨toString currentUser,toString currentUser⟩

def MenuLeadsHome (db : Db) : Prop :=
  ∀ user ∈ db.users.rows, ∀ menu own, accountMenu user.id db.profiles = some menu →
    Profile.ofUser db.profiles user.id = some own →
      ProfilesController.show (some user.id) menu.viewProfile db.profiles = .render (.profile own) ∧
        db.profiles.find? (Ruby.toI menu.updateProfile) = some own

inductive Enrolment
  | account (request : AccountRequest User)
  | createProfile (attrs : Attrs) (addr : Option String) (answer : Geocoding)

def Enrolment.action : Enrolment → Action
  | .account request => .users request
  | .createProfile attrs addr answer => .profiles (.create attrs addr answer)

def enrol (env : Env) (app : App) (request : Nat × Enrolment) : App := app.next env ⟨request.1,request.2.action⟩

def CreatedInTurn (env : Env) (app : App) (request : Nat × Enrolment) : Prop :=
  match request.2,currentUser app.db (app.sessions request.1) with
  | .createProfile attrs addr answer,some user =>
    (Profile.created env user attrs addr answer).isSome → user = app.db.profiles.seq+1
  | _,_ => True

structure InTurn (db : Db) : Prop where
  owner : ∀ row ∈ db.profiles.rows, row.val.userId = some row.id
  registered : ForeignKey Profile.userId db.profiles db.users

namespace InTurn
variable {db : Db}

theorem ofUser (h : InTurn db) {user : Int} {row : Row Profile} (found : Profile.ofUser db.profiles user = some row) :
    row ∈ db.profiles.rows ∧ row.id = user := by
  obtain ⟨member,owned⟩ := Profile.ofUser_eq_some found
  rw [h.owner row member] at owned
  exact ⟨member,Option.some.inj owned⟩

theorem menuLeadsHome (h : InTurn db) : MenuLeadsHome db := by
  intro user _ menu own shown found
  obtain ⟨member,same⟩ := h.ofUser found
  have stored : db.profiles.find? user.id = some own := Table.find?_eq_some.mpr ⟨member,same⟩
  simp only [accountMenu,found,Option.some.injEq] at shown
  subst shown
  simp only [Ruby.toI_toString,stored,ProfilesController.show,found,and_self]

theorem of_profiles (h : InTurn db) {t : Table Profile} (subset : ∀ row ∈ t.rows, row ∈ db.profiles.rows) :
    InTurn {db with profiles := t} :=
  ⟨fun row member => h.owner row (subset row member),h.registered.child_subset subset⟩

/-- The profiles of the user are gone before the new one is stored. -/
theorem destroyTarget_none (h : InTurn db) (user : Int) :
    ∀ row ∈ (Profile.destroyTarget user db.profiles).rows, row.val.userId ≠ some user := by
  intro row member owned
  have inside := Profile.mem_destroyTarget member
  have id := h.owner row inside
  rw [owned] at id
  unfold Profile.destroyTarget at member
  cases found : Profile.ofUser db.profiles user with
  | none => exact Profile.ofUser_eq_none.mp found row inside owned
  | some old =>
    rw [found] at member
    have same := (h.ofUser found).2
    exact (Table.mem_delete.mp member).2 (same ▸ (Option.some.inj id).symm)

end InTurn

theorem InTurn.destroy_user {db : Db} (h : InTurn db) (id : Int) : InTurn (User.destroy id db) := by
  have rest := h.of_profiles (fun _ => Profile.mem_destroyTarget : ∀ row ∈ (Profile.destroyTarget id db.profiles).rows, _)
  refine ⟨rest.owner,(rest.registered.delete_parent_iff id).mpr ?_⟩
  exact h.destroyTarget_none id

theorem InTurn.account {db : Db} (h : InTurn db) (session : Session) (request : AccountRequest User) :
    InTurn (usersScope.handle db session request).1 := by
  refine usersScope.handle_preserves InTurn h (fun record => ?_) (fun id record => ?_) h.destroy_user session request
  · exact ⟨h.owner,h.registered.insert_parent record⟩
  · exact ⟨h.owner,h.registered.update_parent id _⟩

section Create
variable {db : Db} {user : Int} {stored : Profile}

theorem InTurn.create (h : InTurn db) (known : Refers (some user) db.users) (owned : stored.userId = some user)
    (turn : user = db.profiles.seq+1) :
    InTurn {db with profiles := (Profile.destroyTarget user db.profiles).insert stored} := by
  have rest := h.of_profiles (fun _ => Profile.mem_destroyTarget : ∀ row ∈ (Profile.destroyTarget user db.profiles).rows, _)
  refine ⟨fun row member => ?_,(rest.registered.insert_child_iff stored).mpr (owned ▸ known)⟩
  rcases Table.mem_insert.mp member with old | new
  · exact rest.owner row old
  · rw [new]
    simp only [owned,turn,Profile.destroyTarget_seq]

/-- A new profile is in turn exactly where the menu of its user leads to it. -/
theorem menuLeadsHome_create_iff (h : InTurn db) (known : Refers (some user) db.users)
    (owned : stored.userId = some user) :
    MenuLeadsHome {db with profiles := (Profile.destroyTarget user db.profiles).insert stored} ↔
      user = db.profiles.seq+1 := by
  constructor
  · intro leads
    obtain ⟨account,member,same⟩ := known
    cases same
    have own := Profile.ofUser_insert (h.destroyTarget_none account.id) owned
    have menu : accountMenu account.id ((Profile.destroyTarget account.id db.profiles).insert stored) =
        some ⟨toString account.id,toString account.id⟩ := by simp only [accountMenu,own]
    obtain ⟨_,found⟩ := leads account member _ _ menu own
    rw [Ruby.toI_toString] at found
    simpa using (Table.find?_eq_some.mp found).2.symm
  · intro turn
    exact (h.create known owned turn).menuLeadsHome

end Create

theorem enrol_iff (env : Env) (app : App) (request : Nat × Enrolment) (h : InTurn app.db) :
    (MenuLeadsHome (enrol env app request).db ↔ CreatedInTurn env app request) ∧
      (CreatedInTurn env app request → InTurn (enrol env app request).db) := by
  obtain ⟨browser,enrolment⟩ := request
  unfold enrol CreatedInTurn
  rw [App.next_db]
  cases enrolment with
  | account request =>
    have after : InTurn ((Action.users request).apply env app.db (app.sessions browser)) := h.account _ request
    exact ⟨⟨fun _ => trivial,fun _ => after.menuLeadsHome⟩,fun _ => after⟩
  | createProfile attrs addr answer =>
    simp only [Enrolment.action,Action.apply,ProfileRequest.apply]
    cases signedIn : currentUser app.db (app.sessions browser) with
    | none => exact ⟨⟨fun _ => trivial,fun _ => h.menuLeadsHome⟩,fun _ => h⟩
    | some user =>
      have known := currentUser_refers signedIn
      rcases ProfilesController.create_table env user attrs addr answer app.db.profiles with
        ⟨stored,made,table⟩ | ⟨refused,kept⟩
      · have owned := Profile.created_userId made
        simp only [table,made,Option.isSome_some,forall_const]
        exact ⟨menuLeadsHome_create_iff h known owned,h.create known owned⟩
      · have subset : ∀ row ∈ (ProfilesController.create env user attrs addr answer app.db.profiles).1.rows,
            row ∈ app.db.profiles.rows := by
          rcases kept with same | gone
          · rw [same]
            exact fun _ member => member
          · rw [gone]
            exact fun _ => Profile.mem_destroyTarget
        have after := h.of_profiles subset
        simp only [refused,Option.isSome_none]
        exact ⟨⟨fun _ made => absurd made (by simp),fun _ => after.menuLeadsHome⟩,fun _ => after⟩

/-- From the empty database, the menu leads every user home throughout a run exactly when
each accepted profile takes the id of the user who creates it. -/
theorem menu_leads_home_iff (env : Env) (requests : List (Nat × Enrolment)) :
    Throughout (enrol env) (fun app => MenuLeadsHome app.db) (App.init Db.empty) requests ↔
      Along (enrol env) (CreatedInTurn env) (App.init Db.empty) requests := by
  have start : InTurn (App.init Db.empty).db := ⟨fun _ member => absurd member (by simp [App.init,Db.empty,Table.empty]),.empty _⟩
  exact throughout_iff_along_of_invariant (enrol env) (fun _ h => h.menuLeadsHome)
    (fun app request h => (enrol_iff env app request h).1) (fun app request h => (enrol_iff env app request h).2)
    start requests

/-- Two users register, and the second creates a profile first. -/
theorem menu_leads_nowhere :
    ¬ Throughout (enrol .production) (fun app => MenuLeadsHome app.db) (App.init Db.empty)
      [(0,.account (.signUp ⟨"first@example.com"⟩ true)),(1,.account (.signUp ⟨"second@example.com"⟩ true)),
        (1,.createProfile [("first_name",some "Asha"),("last_name",some "Rao"),("mobile_number",some "9000000000"),
          ("employer",some "Self")] (some "Kondapur") (.accepted none none))] := by
  intro leads
  obtain ⟨_,_,_,last⟩ := leads
  obtain ⟨_,found⟩ := last ⟨2,⟨"second@example.com"⟩⟩ (by decide) ⟨"2","2"⟩ _ (by decide) rfl
  revert found
  decide

end HyderabadHomes
