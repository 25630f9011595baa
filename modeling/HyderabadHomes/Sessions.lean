import HyderabadHomes.LoginSearch
import HyderabadHomes.Tables
import HyderabadHomes.Transition.Run

/-! Identity over whole runs. A primary key is never given out twice, and a session stands
for the account it was opened for or for nobody, whatever happens in other browsers. -/
namespace HyderabadHomes
open Relational Transition

theorem App.stateAt_evolves (env : Env) (app : App) (requests : List Request) {i j : Nat} (order : i ≤ j) :
    Db.Evolves (stateAt (App.next env) app requests i).db (stateAt (App.next env) app requests j).db := by
  apply stateAt_from (App.next env) (fun s => Db.Evolves (stateAt (App.next env) app requests i).db s.db) (.refl _) ?_ order
  intro n request _ _ _ sofar
  rw [App.next_db]
  exact sofar.trans (request.action.apply_evolves env _ _)

/-- A row that is gone stays gone: its id is not given to another row of its table. -/
theorem deleted_id_never_returns (env : Env) (app : App) (requests : List Request) (n : TableName) {id : Int}
    {i j k : Nat} (order : i ≤ j) (later : j ≤ k)
    (stored : id ∈ ((stateAt (App.next env) app requests i).db.table n).ids)
    (gone : id ∉ ((stateAt (App.next env) app requests j).db.table n).ids) :
    id ∉ ((stateAt (App.next env) app requests k).db.table n).ids :=
  (App.stateAt_evolves env app requests order n).stays_gone (App.stateAt_evolves env app requests later n) stored gone

def accountCancelled : List Request :=
  [⟨0,.users (.signUp ⟨"a@x"⟩ true)⟩,⟨1,.users (.signIn (some 1))⟩,⟨0,.users .destroy⟩,
    ⟨2,.users (.signUp ⟨"b@x"⟩ true)⟩]

theorem cancelled_id_never_returns :
    1 ∉ ((stateAt (App.next .production) (App.init .empty) accountCancelled 4).db.table .users).ids :=
  deleted_id_never_returns .production (App.init .empty) accountCancelled .users (show 1 ≤ 3 by decide)
    (show 3 ≤ 4 by decide) (by decide) (by decide)

inductive Role
  | user
  | administrator
deriving DecidableEq,Repr

namespace Role

def account : Role → Session → Option Int
  | .user => Session.user
  | .administrator => Session.administrator

def tableName : Role → TableName
  | .user => .users
  | .administrator => .administrators

def current : Role → Db → Session → Option Int
  | .user => currentUser
  | .administrator => currentAdministrator

theorem current_eq_some (role : Role) {db : Db} {session : Session} {id : Int} :
    role.current db session = some id ↔ role.account session = some id ∧ id ∈ (db.table role.tableName).ids := by
  rw [Table.mem_ids_iff_find]
  cases role with
  | user => exact Option.filter_eq_some_iff
  | administrator => exact Option.filter_eq_some_iff

end Role

def AccountRequest.authenticates {α : Type} : AccountRequest α → Bool
  | .signUp _ _ => true
  | .signIn _ => true
  | .resetPassword _ => true
  | _ => false

def Action.authenticates : Role → Action → Bool
  | .user,.users request => request.authenticates
  | .administrator,.administrators request => request.authenticates
  | _,_ => false

theorem HomeController.handle_account (role : Role) (db : Db) (session : Session) (request : HomeRequest) :
    role.account (handle db session request).2.1 = role.account session := by
  have rendered : ∀ rows, role.account (renderSearch db session rows).1 = role.account session := by
    intro rows
    unfold renderSearch
    cases renderRows db.properties db.lookingFors ListingKey.propertyId ListingKey.kindId rows with
    | error e => rfl
    | ok shown =>
      cases role with
      | user => exact (remember_fold session shown).1
      | administrator => exact (remember_fold session shown).2.1
  cases request with
  | searchProperties plan search addr =>
    simp only [handle,searchProperties]
    cases search with
    | none => rfl
    | some criteria =>
      simp only
      cases UserLookingForProperty.search plan db (.ofText criteria.propertyId) (.ofText criteria.kindId)
          (.ofText addr) with
      | error e => rfl
      | ok rows => exact rendered rows
  | addToCart =>
    simp only [handle,addToCart]
    cases currentUser db session <;> cases role <;> rfl
  | addToFavourites plan =>
    simp only [handle,addToFavourites]
    cases UserLookingForProperty.search plan db (.ofInteger session.property) (.ofInteger session.lookingFor)
        (.ofText session.location) with
    | error e => rfl
    | ok rows => exact rendered rows
  | _ => rfl

def Drawn (db : Db) (session : Session) : Prop :=
  ∀ role id, Role.account role session = some id → id ≤ (db.table role.tableName).seq

namespace Drawn

theorem empty (db : Db) : Drawn db Session.empty := by
  intro role id held
  cases role <;> cases held

theorem mono {db db' : Db} {session session' : Session} (drawn : Drawn db session) (evolves : Db.Evolves db db')
    (kept : ∀ role id, Role.account role session' = some id → Role.account role session = some id) :
    Drawn db' session' := fun role id held =>
  Int.le_trans (drawn role id (kept role id held)) (evolves role.tableName).grown

end Drawn

structure Scope.Serves {α : Type} (s : Scope α) (role : Role) : Prop where
  account_set : ∀ other id session,
    Role.account other (s.setAccount id session) = if other = role then some id else Role.account other session
  account_welcomed : ∀ other session, Role.account other (s.afterSignInPathFor session).1 = Role.account other session
  table_seq : ∀ db, (s.table db).seq = (db.table role.tableName).seq
  table_setTable : ∀ db t, s.table (s.setTable t db) = t

theorem usersScope_serves : usersScope.Serves .user where
  account_set other id session := by cases other <;> rfl
  account_welcomed other session := by cases other <;> rfl
  table_seq db := rfl
  table_setTable db t := rfl

theorem administratorsScope_serves : administratorsScope.Serves .administrator where
  account_set other id session := by cases other <;> rfl
  account_welcomed other session := rfl
  table_seq db := rfl
  table_setTable db t := rfl

namespace Scope.Serves
variable {α : Type} {s : Scope α} {role : Role}

theorem entered (serves : s.Serves role) {db db' : Db} {session session' : Session} (drawn : Drawn db session)
    (evolves : Db.Evolves db db') (same : ∀ other, Role.account other session' = Role.account other session) {id : Int}
    (bound : id ≤ (db'.table role.tableName).seq) : Drawn db' (s.setAccount id session') := by
  intro other held account
  rw [serves.account_set] at account
  split at account
  · rename_i here
    cases account
    rw [here]
    exact bound
  · rw [same] at account
    exact Int.le_trans (drawn other held account) (evolves other.tableName).grown

theorem drawn (serves : s.Serves role) {db db' : Db} {session session' : Session} {request : AccountRequest α}
    (handled : s.Handled db session request db' session') (evolves : Db.Evolves db db') (drawn : Drawn db session) :
    Drawn db' session' := by
  cases handled with
  | idle => exact drawn
  | welcomed => exact drawn.mono evolves fun other id held => (serves.account_welcomed other session) ▸ held
  | cleared => exact .empty db
  | signedUp record accepted valid storable =>
    apply serves.entered drawn evolves (fun _ => rfl)
    refine Int.le_of_eq ?_
    rw [← serves.table_seq,serves.table_setTable,Table.insert_seq]
  | signedIn account row member =>
    apply serves.entered drawn evolves (fun _ => rfl)
    rw [← serves.table_seq]
    exact (s.table db).drawn row member
  | passwordReset account row member =>
    apply serves.entered drawn evolves (fun other => serves.account_welcomed other session)
    rw [← serves.table_seq]
    exact (s.table db).drawn row member
  | updated id record accepted current valid storable => exact drawn.mono evolves fun _ _ held => held
  | destroyed id current => exact .empty _

/-- A request that does not authenticate the role leaves its part of the session or clears it. -/
theorem account_of_quiet (serves : s.Serves role) {db db' : Db} {session session' : Session}
    {request : AccountRequest α} (handled : s.Handled db session request db' session') {other : Role}
    (quiet : other = role → request.authenticates = false) {id : Int}
    (held : Role.account other session' = some id) : Role.account other session = some id := by
  have untouched : ∀ id session, request.authenticates = true →
      Role.account other (s.setAccount id session) = Role.account other session := by
    intro id session loud
    rw [serves.account_set,if_neg]
    intro here
    rw [quiet here] at loud
    cases loud
  cases handled with
  | idle => exact held
  | welcomed => exact (serves.account_welcomed other session) ▸ held
  | cleared => cases other <;> cases held
  | signedUp record accepted valid storable => rwa [untouched _ _ rfl] at held
  | signedIn account row member => rwa [untouched _ _ rfl] at held
  | passwordReset account row member => rwa [untouched _ _ rfl,serves.account_welcomed] at held
  | updated id record accepted current valid storable => exact held
  | destroyed id current => cases other <;> cases held

end Scope.Serves

theorem serve_drawn (env : Env) {db : Db} {session : Session} (action : Action) (drawn : Drawn db session) :
    Drawn (serve env db session action).1 (serve env db session action).2.1 := by
  have evolves : Db.Evolves db (serve env db session action).1 := by
    rw [serve_db]
    exact action.apply_evolves env db session
  cases action with
  | users request => exact usersScope_serves.drawn (usersScope.handle_handled db session request) evolves drawn
  | administrators request =>
    exact administratorsScope_serves.drawn (administratorsScope.handle_handled db session request) evolves drawn
  | home request =>
    exact drawn.mono evolves fun role id held => (HomeController.handle_account role db session request) ▸ held
  | _ => exact drawn.mono evolves fun _ _ held => held

theorem serve_account_of_quiet (env : Env) {db : Db} {session : Session} {action : Action} {role : Role}
    (quiet : action.authenticates role = false) {id : Int}
    (held : role.account (serve env db session action).2.1 = some id) : role.account session = some id := by
  cases action with
  | users request =>
    refine usersScope_serves.account_of_quiet (usersScope.handle_handled db session request) (fun here => ?_) held
    rw [here] at quiet
    exact quiet
  | administrators request =>
    refine administratorsScope_serves.account_of_quiet (administratorsScope.handle_handled db session request)
      (fun here => ?_) held
    rw [here] at quiet
    exact quiet
  | home request => exact (HomeController.handle_account role db session request) ▸ held
  | _ => exact held

def App.Drawn (app : App) : Prop := ∀ browser, HyderabadHomes.Drawn app.db (app.sessions browser)

theorem App.Drawn.init (db : Db) : (App.init db).Drawn := fun _ => .empty db

theorem App.Drawn.next {app : App} (drawn : app.Drawn) (env : Env) (request : Request) : (app.next env request).Drawn := by
  intro browser
  by_cases here : browser = request.browser
  · subst here
    simpa [App.next,App.step] using serve_drawn env request.action (drawn request.browser)
  · have other : (app.next env request).sessions browser = app.sessions browser := by simp [App.next,App.step,here]
    rw [other]
    refine (drawn browser).mono ?_ fun _ _ held => held
    rw [App.next_db]
    exact request.action.apply_evolves env _ _

theorem App.Drawn.stateAt (env : Env) (db : Db) (requests : List Request) (n : Nat) :
    (stateAt (App.next env) (App.init db) requests n).Drawn := by
  have start : (Transition.stateAt (App.next env) (App.init db) requests 0).Drawn := .init db
  exact stateAt_from (App.next env) App.Drawn start (fun _ request _ _ _ sofar => sofar.next env request) (Nat.zero_le n)

/-- A browser that has not itself signed up, signed in or reset a password since is nobody
or still the account that it was. In particular a session never turns into the account of
someone else, and once its account is cancelled it stays signed out. -/
theorem session_keeps_its_account (env : Env) (db : Db) (requests : List Request) (role : Role) (browser : Nat)
    {i j : Nat} (order : i ≤ j)
    (quiet : ∀ n request, i ≤ n → n < j → requests[n]? = some request → request.browser = browser →
      request.action.authenticates role = false) :
    let before := stateAt (App.next env) (App.init db) requests i
    let after := stateAt (App.next env) (App.init db) requests j
    role.current after.db (after.sessions browser) = none ∨
      role.current after.db (after.sessions browser) = role.current before.db (before.sessions browser) := by
  intro before after
  have held : ∀ id, role.account (after.sessions browser) = some id → role.account (before.sessions browser) = some id := by
    intro id
    apply stateAt_from (App.next env) (fun s => role.account (s.sessions browser) = some id →
      role.account (before.sessions browser) = some id) (fun same => same) ?_ order
    intro n request low high served sofar held
    by_cases here : browser = request.browser
    · subst here
      apply sofar
      apply serve_account_of_quiet env (quiet n request low high served rfl)
      simpa [App.next,App.step] using held
    · apply sofar
      simpa [App.next,App.step,here] using held
  cases current : role.current after.db (after.sessions browser) with
  | none => exact .inl rfl
  | some id =>
    obtain ⟨account,member⟩ := role.current_eq_some.mp current
    have drawn := App.Drawn.stateAt env db requests i browser role id (held id account)
    have stored := (App.stateAt_evolves env (App.init db) requests order role.tableName).mem_of_mem drawn member
    exact .inr (role.current_eq_some.mpr ⟨held id account,stored⟩).symm

/-- Browser 1 is still signed in when browser 0 cancels the account that both use. -/
theorem session_of_cancelled_account :
    let before := stateAt (App.next .production) (App.init .empty) accountCancelled 2
    let after := stateAt (App.next .production) (App.init .empty) accountCancelled 4
    Role.user.current after.db (after.sessions 1) = none ∨
      Role.user.current after.db (after.sessions 1) = Role.user.current before.db (before.sessions 1) := by
  refine session_keeps_its_account .production .empty accountCancelled .user 1 (by decide) ?_
  intro n request low high served same
  obtain rfl | rfl : n = 2 ∨ n = 3 := by omega
  · cases served
    cases same
  · cases served
    cases same

end HyderabadHomes
