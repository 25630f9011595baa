import HyderabadHomes.App
import HyderabadHomes.Relational.Commit

/-! Sign-ups served side by side. Between the uniqueness query of the validation and the
INSERT the others go on, and here the schema has a unique index that decides. -/
namespace HyderabadHomes
open Relational Transition

structure SignUp where
  session : Session
  record : User
  /-- What Devise says to the format of the email and to the password. -/
  accepted : Bool
deriving DecidableEq,Repr

inductive SigningUp
  | arrived (request : SignUp)
  | inserting (session : Session) (record : User)
  | welcomed (row : Row User) (session : Session) (response : Response)
  | refused (session : Session) (response : Response)
deriving DecidableEq,Repr

/-- The query of `validates_uniqueness_of :email`. -/
def emailTaken (t : Table User) (record : User) : Bool := t.rows.any fun row => row.val.email == record.email

namespace SigningUp

def row? : SigningUp → Option (Row User)
  | .welcomed row _ _ => some row
  | _ => none

def outcome : SigningUp → Option (Session × Response)
  | .welcomed _ session response => some (session,response)
  | .refused session response => some (session,response)
  | _ => none

def step (db : Db) : SigningUp → Db × SigningUp
  | .arrived ⟨session,record,accepted⟩ =>
    match currentUser db session with
    | some _ =>
      (db,.refused (usersScope.afterSignInPathFor session).1 (.redirect (usersScope.afterSignInPathFor session).2 none))
    | none =>
      if accepted && !emailTaken db.users record then (db,.inserting session record)
      else (db,.refused session (.render (.template .new)))
  | .inserting session record =>
    if uniqueEmail User.email db.users none record then
      ({db with users := db.users.insert record},
        .welcomed ⟨db.users.seq+1,record⟩ {session with user := some (db.users.seq+1)}
          (.redirect (usersScope.afterSignUp session) (some "Welcome! You have signed up successfully.")))
    else (db,.refused session (.error .statementInvalid))
  | .welcomed row session response => (db,.welcomed row session response)
  | .refused session response => (db,.refused session response)

theorem alone_refused (db : Db) (session : Session) (response : Response) (n : Nat) :
    Pool.alone step n (db,.refused session response) = (db,.refused session response) := Pool.alone_of_fixed (by rfl) n

/-- Served alone, a sign-up does what the registrations controller does. -/
theorem alone_eq_handle (db : Db) (request : SignUp) :
    (Pool.alone step 2 (db,.arrived request)).1 =
        (usersScope.handle db request.session
          (.signUp request.record (request.accepted && !emailTaken db.users request.record))).1 ∧
      outcome (Pool.alone step 2 (db,.arrived request)).2 =
        some (usersScope.handle db request.session
          (.signUp request.record (request.accepted && !emailTaken db.users request.record))).2 := by
  obtain ⟨session,record,accepted⟩ := request
  cases current : currentUser db session with
  | some user =>
    have signedIn : usersScope.current db session = some user := current
    have first : step db (.arrived ⟨session,record,accepted⟩) = (db,.refused (usersScope.afterSignInPathFor session).1
        (.redirect (usersScope.afterSignInPathFor session).2 none)) := by
      simp only [step,current]
    rw [Pool.alone,first,alone_refused]
    simp only [Scope.handle,Scope.requireNoAuthentication,signedIn]
    exact ⟨trivial,rfl⟩
  | none =>
    have signedOut : usersScope.current db session = none := current
    cases passed : accepted && !emailTaken db.users record with
    | false =>
      have first : step db (.arrived ⟨session,record,accepted⟩) = (db,.refused session (.render (.template .new))) := by
        simp only [step,current,passed,Bool.false_eq_true,if_false]
      rw [Pool.alone,first,alone_refused]
      simp only [Scope.handle,Scope.requireNoAuthentication,signedOut]
      exact ⟨rfl,rfl⟩
    | true =>
      have first : step db (.arrived ⟨session,record,accepted⟩) = (db,.inserting session record) := by
        simp only [step,current,passed,if_true]
      have valid : (!(true && usersScope.valid record)) = false := rfl
      rw [Pool.alone,first]
      simp only [Pool.alone,step,Scope.handle,Scope.requireNoAuthentication,signedOut,valid,Bool.false_eq_true,if_false]
      cases free : uniqueEmail User.email db.users none record with
      | true =>
        have storable : (!usersScope.storable (usersScope.table db) none record) = false := by
          rw [Bool.not_eq_false']
          exact free
        simp only [storable,Bool.false_eq_true,if_false,if_true]
        exact ⟨rfl,rfl⟩
      | false =>
        have storable : (!usersScope.storable (usersScope.table db) none record) = true := by
          rw [Bool.not_eq_true']
          exact free
        simp only [storable,Bool.false_eq_true,if_false,if_true]
        exact ⟨trivial,rfl⟩

theorem commitsOnce : CommitsOnce arrived step Db.users row? where
  fresh request := rfl
  step db l := by
    cases l with
    | arrived request =>
      obtain ⟨session,record,accepted⟩ := request
      left
      simp only [step]
      cases currentUser db session with
      | some user => exact ⟨rfl,rfl⟩
      | none =>
        simp only
        split <;> exact ⟨rfl,rfl⟩
    | inserting session record =>
      simp only [step]
      split
      · exact .inr ⟨_,rfl,rfl,rfl⟩
      · exact .inl ⟨rfl,rfl⟩
    | welcomed row session response => exact .inl ⟨rfl,rfl⟩
    | refused session response => exact .inl ⟨rfl,rfl⟩

instance : Std.Symm fun u v : User => u.email = v.email := ⟨fun _ _ same => same.symm⟩

theorem step_unique {db : Db} (unique : db.users.Unique fun u v => u.email = v.email) (l : SigningUp) :
    (step db l).1.users.Unique fun u v => u.email = v.email := by
  cases l with
  | arrived request =>
    obtain ⟨session,record,accepted⟩ := request
    simp only [step]
    cases currentUser db session with
    | some user => exact unique
    | none =>
      simp only
      split <;> exact unique
  | inserting session record =>
    simp only [step]
    split
    · rename_i free
      simp only [uniqueEmail,Bool.and_eq_true,List.all_eq_true,Bool.or_eq_true,beq_iff_eq,bne_iff_ne] at free
      refine (Table.unique_insert_iff unique record).mpr fun row member _ => ?_
      exact (free.2 row member).resolve_left (by simp)
    · exact unique
  | welcomed row session response => exact unique
  | refused session response => exact unique

end SigningUp

abbrev signUpRace : Pool Db SigningUp → Schedule SignUp → Pool Db SigningUp := Pool.step SigningUp.arrived SigningUp.step

/-- Under every schedule of concurrent sign-ups the users are those of the start and, each
once, those who have been welcomed: none of these is lost or stored twice, and no two of
them share an email with each other or with a user of the start, whatever their
validations have seen. -/
theorem sign_ups_never_collide (db : Db) (start : db.users.Unique fun u v => u.email = v.email)
    (acts : List (Schedule SignUp)) :
    let after := run signUpRace ⟨db,[]⟩ acts
    ∃ new, after.shared.users.rows = db.users.rows ++ new ∧ new.Perm (after.threads.filterMap SigningUp.row?) ∧
      ((after.shared.users.rows).map fun row => row.val.email).Nodup := by
  intro after
  obtain ⟨new,rows,same⟩ := SigningUp.commitsOnce.accounted db acts
  refine ⟨new,rows,same,Table.Unique.nodup_map ?_⟩
  have keeps : ∀ (c : Pool Db SigningUp) (act : Schedule SignUp), (c.shared.users.Unique fun u v => u.email = v.email) →
      (signUpRace c act).shared.users.Unique fun u v => u.email = v.email := by
    intro c act unique
    cases act with
    | start request => exact unique
    | advance i =>
      simp only [Pool.step]
      cases c.threads[i]? with
      | none => exact unique
      | some l => exact SigningUp.step_unique unique l
  have always := throughout_of_keeps signUpRace keeps (s := ⟨db,[]⟩) start acts
  rw [throughout_iff_take] at always
  simpa using always acts.length

def bothSignUp : List (Schedule SignUp) :=
  [.start ⟨.empty,⟨"a@x"⟩,true⟩,.start ⟨.empty,⟨"a@x"⟩,true⟩,.advance 0,.advance 1,.advance 0,.advance 1]

/-- Both validations find the email free; the second INSERT fails on the index. -/
theorem equal_sign_ups_never_collide :
    let after := run signUpRace ⟨.empty,[]⟩ bothSignUp
    ∃ new, after.shared.users.rows = Db.empty.users.rows ++ new ∧ new.Perm (after.threads.filterMap SigningUp.row?) ∧
      ((after.shared.users.rows).map fun row => row.val.email).Nodup :=
  sign_ups_never_collide .empty Table.unique_empty bothSignUp

end HyderabadHomes
