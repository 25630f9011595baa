import HyderabadHomes.Profile

/-! The Devise controllers of the two scopes. What Devise decides by itself (whether
its validations accept an account, which account credentials or a token belong to)
comes with the request. A sign-in and a new password write Devise's own columns only. -/
namespace HyderabadHomes
open Relational

inductive AccountRequest (α : Type)
  | new
  | signUp (record : α) (accepted : Bool)
  | signIn (account : Option Int)
  | forgotPassword (account : Option Int)
  | editPassword
  | resetPassword (account : Option Int)
  | cancel
  | edit
  | update (record : α) (accepted : Bool)
  | destroy
  | signOut

def AccountRequest.saves {α : Type} : AccountRequest α → Bool
  | .signUp _ _ => true
  | .update _ _ => true
  | .destroy => true
  | _ => false

structure Scope (α : Type) where
  table : Db → Table α
  setTable : Table α → Db → Db
  account : Session → Option Int
  setAccount : Int → Session → Session
  valid : α → Bool
  storable : Table α → Option Int → α → Bool
  destroy : Int → Db → Db
  newRegistration : Path
  newSession : Path
  afterSignUp : Session → Path
  afterSignIn : Session → Path
  afterSignInPathFor : Session → Session × Path

namespace Scope
variable {α : Type} (s : Scope α)

/-- `current_user` and `current_administrator`: nil once the account is gone. -/
def current (db : Db) (session : Session) : Option Int :=
  (s.account session).filter fun id => ((s.table db).find? id).isSome

def requireNoAuthentication (db : Db) (session : Session) (reply : Db × Session × Response) : Db × Session × Response :=
  match s.current db session with
  | some _ => (db,(s.afterSignInPathFor session).1,.redirect (s.afterSignInPathFor session).2 none)
  | none => reply

def handle (db : Db) (session : Session) : AccountRequest α → Db × Session × Response
  | .new => s.requireNoAuthentication db session (db,session,.render (.template .new))
  | .signUp record accepted =>
    s.requireNoAuthentication db session
      (if !(accepted && s.valid record) then (db,session,.render (.template .new))
      else if !s.storable (s.table db) none record then (db,session,.error .statementInvalid)
      else
        (s.setTable ((s.table db).insert record) db,s.setAccount ((s.table db).seq+1) session,
          .redirect (s.afterSignUp session) (some "Welcome! You have signed up successfully.")))
  | .signIn account =>
    s.requireNoAuthentication db session
      (match account.bind (s.table db).find? with
      | none => (db,session,.render (.template .new))
      | some row => (db,s.setAccount row.id session,.redirect (s.afterSignIn session) (some "Signed in successfully.")))
  | .forgotPassword account =>
    s.requireNoAuthentication db session
      (match account.bind (s.table db).find? with
      | none => (db,session,.render (.template .new))
      | some _ =>
        (db,session,.redirect s.newSession
          (some "You will receive an email with instructions about how to reset your password in a few minutes.")))
  | .editPassword => s.requireNoAuthentication db session (db,session,.render (.template .edit))
  | .resetPassword account =>
    s.requireNoAuthentication db session
      (match account.bind (s.table db).find? with
      | none => (db,session,.render (.template .edit))
      | some row =>
        (db,s.setAccount row.id (s.afterSignInPathFor session).1,.redirect (s.afterSignInPathFor session).2
          (some "Your password was changed successfully. You are now signed in.")))
  | .cancel => s.requireNoAuthentication db session (db,session,.redirect s.newRegistration none)
  | .edit =>
    match s.current db session with
    | none => (db,session,.redirect s.newSession none)
    | some _ => (db,session,.render (.template .edit))
  | .update record accepted =>
    match s.current db session with
    | none => (db,session,.redirect s.newSession none)
    | some id =>
      if !(accepted && s.valid record) then (db,session,.render (.template .edit))
      else if !s.storable (s.table db) (some id) record then (db,session,.error .statementInvalid)
      else
        (s.setTable ((s.table db).update id fun _ => record) db,session,
          .redirect .root (some "You updated your account successfully."))
  | .destroy =>
    match s.current db session with
    | none => (db,session,.redirect s.newSession none)
    | some id =>
      (s.destroy id db,Session.empty,
        .redirect .root (some "Bye! Your account was successfully cancelled. We hope to see you again soon."))
  -- every scope is signed out together, and the session is cleared with them
  | .signOut =>
    (db,Session.empty,.redirect .root
      (if session.user.isSome || session.administrator.isSome then some "Signed out successfully." else none))

inductive Handled (db : Db) (session : Session) : AccountRequest α → Db → Session → Prop
  | idle {request : AccountRequest α} : Handled db session request db session
  | welcomed {request : AccountRequest α} : Handled db session request db (s.afterSignInPathFor session).1
  | cleared {request : AccountRequest α} : Handled db session request db Session.empty
  | signedUp (record : α) (accepted : Bool) (valid : s.valid record = true)
      (storable : s.storable (s.table db) none record = true) :
      Handled db session (.signUp record accepted) (s.setTable ((s.table db).insert record) db)
        (s.setAccount ((s.table db).seq+1) session)
  | signedIn (account : Option Int) (row : Row α) (member : row ∈ (s.table db).rows) :
      Handled db session (.signIn account) db (s.setAccount row.id session)
  | passwordReset (account : Option Int) (row : Row α) (member : row ∈ (s.table db).rows) :
      Handled db session (.resetPassword account) db (s.setAccount row.id (s.afterSignInPathFor session).1)
  | updated (id : Int) (record : α) (accepted : Bool) (current : s.current db session = some id)
      (valid : s.valid record = true) (storable : s.storable (s.table db) (some id) record = true) :
      Handled db session (.update record accepted) (s.setTable ((s.table db).update id fun _ => record) db) session
  | destroyed (id : Int) (current : s.current db session = some id) :
      Handled db session .destroy (s.destroy id db) Session.empty

theorem Handled.db_eq {db db' : Db} {session session' : Session} {request : AccountRequest α}
    (handled : s.Handled db session request db' session') (quiet : request.saves = false) : db' = db := by
  cases handled with
  | signedUp record accepted valid storable => cases quiet
  | updated id record accepted current valid storable => cases quiet
  | destroyed id current => cases quiet
  | _ => rfl

theorem requireNoAuthentication_handled {db : Db} {session : Session} {request : AccountRequest α}
    {reply : Db × Session × Response} (handled : s.Handled db session request reply.1 reply.2.1) :
    s.Handled db session request (s.requireNoAuthentication db session reply).1
      (s.requireNoAuthentication db session reply).2.1 := by
  unfold requireNoAuthentication
  cases s.current db session with
  | some id => exact .welcomed
  | none => exact handled

theorem handle_handled (db : Db) (session : Session) (request : AccountRequest α) :
    s.Handled db session request (s.handle db session request).1 (s.handle db session request).2.1 := by
  cases request with
  | new => exact s.requireNoAuthentication_handled .idle
  | signUp record accepted =>
    apply s.requireNoAuthentication_handled
    split
    · exact .idle
    · rename_i passed
      split
      · exact .idle
      · rename_i fit
        simp only [Bool.not_eq_true',Bool.not_eq_false,Bool.and_eq_true] at passed fit
        exact .signedUp record accepted passed.2 fit
  | signIn account =>
    apply s.requireNoAuthentication_handled
    cases found : account.bind (s.table db).find? with
    | none => exact .idle
    | some row =>
      obtain ⟨id,_,here⟩ := Option.bind_eq_some_iff.mp found
      exact .signedIn account row (Table.find?_eq_some.mp here).1
  | forgotPassword account =>
    apply s.requireNoAuthentication_handled
    cases account.bind (s.table db).find? <;> exact .idle
  | editPassword => exact s.requireNoAuthentication_handled .idle
  | cancel => exact s.requireNoAuthentication_handled .idle
  | edit =>
    simp only [handle]
    cases s.current db session <;> exact .idle
  | resetPassword account =>
    apply s.requireNoAuthentication_handled
    cases found : account.bind (s.table db).find? with
    | none => exact .idle
    | some row =>
      obtain ⟨id,_,here⟩ := Option.bind_eq_some_iff.mp found
      exact .passwordReset account row (Table.find?_eq_some.mp here).1
  | update record accepted =>
    simp only [handle]
    cases current : s.current db session with
    | none => exact .idle
    | some id =>
      simp only
      split
      · exact .idle
      · rename_i passed
        split
        · exact .idle
        · rename_i fit
          simp only [Bool.not_eq_true',Bool.not_eq_false,Bool.and_eq_true] at passed fit
          exact .updated id record accepted current passed.2 fit
  | destroy =>
    simp only [handle]
    cases current : s.current db session with
    | none => exact .idle
    | some id => exact .destroyed id current
  | signOut => exact .cleared

/-- A request inserts an account, updates one, destroys one or leaves the database alone. -/
theorem handle_preserves (P : Db → Prop) {db : Db} (kept : P db)
    (inserted : ∀ record, P (s.setTable ((s.table db).insert record) db))
    (updated : ∀ id record, P (s.setTable ((s.table db).update id fun _ => record) db))
    (destroyed : ∀ id, P (s.destroy id db)) (session : Session) (request : AccountRequest α) :
    P (s.handle db session request).1 := by
  have handled := s.handle_handled db session request
  generalize (s.handle db session request).1 = db',(s.handle db session request).2.1 = session' at handled
  cases handled with
  | signedUp record accepted valid storable => exact inserted record
  | updated id record accepted current valid storable => exact updated id record
  | destroyed id current => exact destroyed id
  | _ => exact kept

end Scope

/-- The dependent rows go first; `has_one` destroys the one profile it loads. -/
def User.destroy (id : Int) (db : Db) : Db :=
  {db with
    profiles := Profile.destroyTarget id db.profiles
    userProperties := db.userProperties.keep fun row => row.val.userId != some id
    userLookingForProperties := db.userLookingForProperties.keep fun row => row.val.userId != some id
    userContacts := db.userContacts.keep fun row => row.val.userId != some id
    users := db.users.delete id}

def uniqueEmail {α : Type} (email : α → String) (t : Table α) (self : Option Int) (record : α) : Bool :=
  (email record).length ≤ stringLimit && t.rows.all fun row => self == some row.id || email row.val != email record

/-- The password never reaches a column of its own. Devise's presence check refuses a nil email. -/
def Administrator.attrAccessible : List (Attribute Administrator) :=
  [column "email" fun v r => {r with email := v.getD ""},
    column "password" fun _ r => r,
    column "role" fun v r => {r with role := v},
    column "first_name" fun v r => {r with firstName := v},
    column "middle_name" fun v r => {r with middleName := v},
    column "last_name" fun v r => {r with lastName := v},
    column "mobile_number" fun v r => {r with mobileNumber := v},
    column "status" fun v r => {r with status := v},
    column "password_confirmation" fun _ r => r,
    column "remember_me" fun _ r => r]

def Administrator.fresh : Administrator := ⟨"",some "Active",some "Super Admin",none,none,none,none⟩

/-- What Devise does to the keys of its configuration before an account is validated. -/
def Administrator.normalize (r : Administrator) : Administrator := {r with email := Ruby.strip (Ruby.downcase r.email)}

def Administrator.valid (r : Administrator) : Bool :=
  Ruby.present r.firstName && Ruby.present r.lastName && Ruby.present r.mobileNumber

/-- `save` of an account that Devise has its own say on; its unique index is left to `uniqueEmail`. -/
def Administrator.save (devise : Administrator → Bool) (r : Administrator) : Saved Administrator :=
  if r.valid && devise r then if r.fits then .stored r else .raised .statementInvalid else .rejected

def usersScope : Scope User where
  table := Db.users
  setTable t db := {db with users := t}
  account := Session.user
  setAccount id session := {session with user := some id}
  valid _ := true
  storable := uniqueEmail User.email
  destroy := User.destroy
  newRegistration := .newUserRegistration
  newSession := .newUserSession
  afterSignUp session := if session.returnTo.isNone then .usersDashboardIndex else .homeAddToCart
  afterSignIn session := if session.returnTo.isNone then .usersDashboardIndex else .homeSearchProperties
  afterSignInPathFor session := ({session with returnTo := none},session.returnTo.getD .root)

def administratorsScope : Scope Administrator where
  table := Db.administrators
  setTable t db := {db with administrators := t}
  account := Session.administrator
  setAccount id session := {session with administrator := some id}
  valid := Administrator.valid
  storable t self r := uniqueEmail Administrator.email t self r && r.fits
  destroy id db := {db with administrators := db.administrators.delete id}
  newRegistration := .newAdministratorRegistration
  newSession := .newAdministratorSession
  afterSignUp _ := .administratorsDashboardIndex
  afterSignIn _ := .administratorsDashboardIndex
  afterSignInPathFor session := (session,.root)

def currentUser (db : Db) (session : Session) : Option Int := usersScope.current db session

def currentAdministrator (db : Db) (session : Session) : Option Int := administratorsScope.current db session

theorem currentUser_refers {db : Db} {session : Session} {user : Int} (signedIn : currentUser db session = some user) :
    Refers (some user) db.users := by
  obtain ⟨_,stored⟩ := Option.filter_eq_some_iff.mp signedIn
  obtain ⟨row,found⟩ := Option.isSome_iff_exists.mp stored
  obtain ⟨member,hit⟩ := Table.find?_eq_some.mp found
  exact ⟨row,member,by rw [hit]⟩

end HyderabadHomes
