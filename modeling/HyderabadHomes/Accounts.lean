import HyderabadHomes.Footprints
import HyderabadHomes.Sessions

/-! What requests can do to the data of others without being signed in as them: nothing to what
the accounts hold beside Devise's own columns, and without any account nothing to the listings. -/
namespace HyderabadHomes
open Relational Transition

theorem Scope.Serves.account_kept {α : Type} {s : Scope α} {role : Role} (serves : s.Serves role)
    (destroyed : ∀ id db, s.table (s.destroy id db) = (s.table db).delete id) {db db' : Db} {session session' : Session}
    {request : AccountRequest α} (handled : s.Handled db session request db' session') {row : Row α}
    (stored : row ∈ (s.table db).rows) (foreign : s.current db session ≠ some row.id) : row ∈ (s.table db').rows := by
  cases handled with
  | signedUp record accepted valid storable =>
    rw [serves.table_setTable]
    exact Table.mem_insert.mpr (.inl stored)
  | updated id record accepted current valid storable =>
    rw [serves.table_setTable]
    exact Table.mem_update.mpr ⟨row,stored,.inr ⟨fun own => foreign (current.trans (congrArg some own.symm)),rfl⟩⟩
  | destroyed id current =>
    rw [destroyed]
    exact Table.mem_delete.mpr ⟨stored,fun own => foreign (current.trans (congrArg some own.symm))⟩
  | _ => exact stored

def Action.concerns : Role → Action → Bool
  | .user,.users _ => true
  | .administrator,.administrators _ => true
  | _,_ => false

theorem Action.writes_accounts {role : Role} {action : Action} (other : action.concerns role = false) :
    role.tableName ∉ action.writes := by
  cases role <;> cases action with
  | users request => cases request <;> first | (simp [Role.tableName,writes,AccountRequest.writes]; done) | cases other
  | administrators request => cases request <;> first | (simp [Role.tableName,writes,AccountRequest.writes]; done) | cases other
  | home request => cases request <;> simp [Role.tableName,writes,HomeRequest.writes]
  | userProperties request => cases request <;> simp [Role.tableName,writes,ListingRequest.writes]
  | userLookingForProperties request => cases request <;> simp [Role.tableName,writes,ListingRequest.writes]
  | profiles request => cases request <;> simp [Role.tableName,writes,ProfileRequest.writes]
  | usersDashboard request => cases request <;> simp [Role.tableName,writes,DashboardRequest.writes]
  | catalogs c request =>
    simp only [writes]
    cases c.controller.target request <;> cases request <;>
      simp [Role.tableName,CatalogRequest.writes,Catalog.tableName]
  | administratorsDashboard => simp [writes]
  | administratorsDashboardMissing _ => simp [writes]

theorem Action.account_kept (env : Env) {db : Db} {session : Session} {role : Role} {row : Row role.tableName.Record}
    (stored : row ∈ (db.table role.tableName).rows) (foreign : role.current db session ≠ some row.id) (action : Action) :
    row ∈ ((action.apply env db session).table role.tableName).rows := by
  cases own : action.concerns role with
  | false =>
    rw [← serve_db,(serve_footprint env session action).frame db role.tableName (Action.writes_accounts own)]
    exact stored
  | true =>
    cases role with
    | user =>
      cases action with
      | users request =>
        exact usersScope_serves.account_kept (fun _ _ => rfl) (usersScope.handle_handled db session request) stored foreign
      | _ => cases own
    | administrator =>
      cases action with
      | administrators request =>
        exact administratorsScope_serves.account_kept (fun _ _ => rfl)
          (administratorsScope.handle_handled db session request) stored foreign
      | _ => cases own

/-- An account stays, with the email of a user and all that an administrator's row holds beside
Devise's own columns, until a request comes from a browser that is signed in with it. -/
theorem account_stays_until_its_own_request (env : Env) (app : App) (requests : List Request) (role : Role)
    {row : Row role.tableName.Record} {i j : Nat} (order : i ≤ j)
    (stored : row ∈ ((stateAt (App.next env) app requests i).db.table role.tableName).rows)
    (foreign : ∀ n request, i ≤ n → n < j → requests[n]? = some request →
      let before := stateAt (App.next env) app requests n
      role.current before.db (before.sessions request.browser) ≠ some row.id) :
    row ∈ ((stateAt (App.next env) app requests j).db.table role.tableName).rows := by
  apply stateAt_from (App.next env) (fun s => row ∈ (s.db.table role.tableName).rows) stored ?_ order
  intro n request low high taken sofar
  rw [App.next_db]
  exact request.action.account_kept env sofar (foreign n request low high taken)

def twoAccountsInTurn : List Request :=
  [⟨0,.users (.signUp ⟨"a@x"⟩ true)⟩,⟨1,.users (.signUp ⟨"b@x"⟩ true)⟩,⟨1,.users (.update ⟨"c@x"⟩ true)⟩,
    ⟨1,.users .destroy⟩,⟨0,.users (.update ⟨"d@x"⟩ true)⟩]

theorem first_account_stays :
    (⟨1,⟨"a@x"⟩⟩ : Row User) ∈ (stateAt (App.next .production) (App.init .empty) twoAccountsInTurn 4).db.users.rows := by
  refine account_stays_until_its_own_request .production (App.init .empty) twoAccountsInTurn .user (show 1 ≤ 4 by decide)
    ?_ ?_
  · have stored : (⟨1,⟨"a@x"⟩⟩ : Row User) ∈
        (stateAt (App.next .production) (App.init .empty) twoAccountsInTurn 1).db.users.rows := by decide
    exact stored
  · intro n request low high taken
    obtain rfl | rfl | rfl : n = 1 ∨ n = 2 ∨ n = 3 := by omega
    all_goals
      cases taken
      decide

theorem Profile.apply_visitor_ids (env : Env) (t : Table Profile) (request : ProfileRequest) :
    (request.apply env none t).ids = t.ids := by
  cases request with
  | update id attrs addr dob answer => exact Table.ids_rewrite t _ _
  | _ => rfl

structure Spared (before after : Db) : Prop where
  userProperties : after.userProperties = before.userProperties
  userLookingForProperties : after.userLookingForProperties = before.userLookingForProperties
  profiles : after.profiles.ids = before.profiles.ids
  emails : ∀ row ∈ before.users.rows, ∃ kept ∈ after.users.rows, kept.id = row.id ∧ kept.val.email = row.val.email

theorem Spared.of_rows {before after : Db} (userProperties : after.userProperties = before.userProperties)
    (userLookingForProperties : after.userLookingForProperties = before.userLookingForProperties)
    (profiles : after.profiles.ids = before.profiles.ids) (users : ∀ row ∈ before.users.rows, row ∈ after.users.rows) :
    Spared before after :=
  ⟨userProperties,userLookingForProperties,profiles,fun row stored => ⟨row,users row stored,rfl,rfl⟩⟩

theorem Spared.refl (db : Db) : Spared db db := .of_rows rfl rfl rfl fun _ stored => stored

theorem Spared.trans {a b c : Db} (first : Spared a b) (second : Spared b c) : Spared a c where
  userProperties := second.userProperties.trans first.userProperties
  userLookingForProperties := second.userLookingForProperties.trans first.userLookingForProperties
  profiles := second.profiles.trans first.profiles
  emails row stored := by
    obtain ⟨between,there,sameId,same⟩ := first.emails row stored
    obtain ⟨kept,here,sameId',same'⟩ := second.emails between there
    exact ⟨kept,here,sameId'.trans sameId,same'.trans same⟩

theorem Spared.users_request {db db' : Db} {session session' : Session} {request : AccountRequest User}
    (visitor : currentUser db session = none) (handled : usersScope.Handled db session request db' session') :
    Spared db db' := by
  have absent : ∀ id, usersScope.current db session ≠ some id := by
    intro id current
    exact Option.some_ne_none id (current.symm.trans visitor)
  cases handled with
  | signedUp record accepted valid storable => exact .of_rows rfl rfl rfl fun row stored => Table.mem_insert.mpr (.inl stored)
  | updated id record accepted current valid storable => exact absurd current (absent id)
  | destroyed id current => exact absurd current (absent id)
  | _ => exact .refl db

theorem Spared.administrators_request {db db' : Db} {session session' : Session} {request : AccountRequest Administrator}
    (handled : administratorsScope.Handled db session request db' session') : Spared db db' := by
  cases handled <;> exact .of_rows rfl rfl rfl fun _ stored => stored

theorem Action.visitor_spares (env : Env) {db : Db} {session : Session} (visitor : currentUser db session = none)
    (action : Action) : Spared db (action.apply env db session) := by
  cases action with
  | home request =>
    cases request with
    | createProperties property answer =>
      simp only [Action.apply,visitor]
      rcases HomeController.createProperties_effect none property answer db.userLookingForProperties with
        same | ⟨user,_,none,_⟩
      · rw [same]
        exact .refl db
      · cases none
    | _ => exact .refl db
  | userProperties request =>
    simp only [Action.apply,visitor]
    exact .refl db
  | userLookingForProperties request =>
    simp only [Action.apply,visitor]
    exact .refl db
  | profiles request =>
    simp only [Action.apply,visitor]
    exact .of_rows rfl rfl (Profile.apply_visitor_ids env db.profiles request) fun _ stored => stored
  | usersDashboard request =>
    obtain ⟨contacts,same⟩ := UsersDashboard.handle_effect db (currentUser db session) request
    simp only [Action.apply,same]
    exact .of_rows rfl rfl rfl fun _ stored => stored
  | catalogs c request =>
    simp only [Action.apply]
    cases c.controller.target request <;> exact .of_rows rfl rfl rfl fun _ stored => stored
  | administratorsDashboard => exact .refl db
  | administratorsDashboardMissing _ => exact .refl db
  | users request => exact .users_request visitor (usersScope.handle_handled db session request)
  | administrators request => exact .administrators_request (administratorsScope.handle_handled db session request)

/-- As long as every request comes from a browser that is not signed in as a user, be it as an
administrator, the listings stay exactly as they are, no profile is added or deleted, and no
account of a user is deleted or given another email. -/
theorem visitors_leave_listings_alone (env : Env) (app : App) (requests : List Request) (j : Nat)
    (visitors : ∀ n request, n < j → requests[n]? = some request →
      let before := stateAt (App.next env) app requests n
      currentUser before.db (before.sessions request.browser) = none) :
    let reached := stateAt (App.next env) app requests j
    reached.db.userProperties = app.db.userProperties ∧
      reached.db.userLookingForProperties = app.db.userLookingForProperties ∧
      reached.db.profiles.ids = app.db.profiles.ids ∧
      ∀ row ∈ app.db.users.rows, ∃ kept ∈ reached.db.users.rows, kept.id = row.id ∧ kept.val.email = row.val.email := by
  intro reached
  have start : Spared app.db (stateAt (App.next env) app requests 0).db := .refl app.db
  have spared : Spared app.db reached.db :=
    stateAt_from (App.next env) (fun s => Spared app.db s.db) start
      (fun n request _ before taken sofar => by
        rw [App.next_db]
        exact sofar.trans (request.action.visitor_spares env (visitors n request before taken)))
      (Nat.zero_le j)
  exact ⟨spared.userProperties,spared.userLookingForProperties,spared.profiles,spared.emails⟩

def strangers : List Request :=
  [⟨1,.users (.signUp ⟨"b@x"⟩ true)⟩,⟨2,.userProperties (.destroy "1")⟩,
    ⟨3,.home (.createProperties (some [some "1"]) fun _ => .accepted none none)⟩]

theorem strangers_leave_listing_alone :
    (stateAt (App.next .production) oneListing strangers 3).db.userLookingForProperties =
      oneListing.db.userLookingForProperties := by
  refine (visitors_leave_listings_alone .production oneListing strangers 3 ?_).2.1
  intro n request before taken
  obtain rfl | rfl | rfl : n = 0 ∨ n = 1 ∨ n = 2 := by omega
  all_goals
    cases taken
    rfl

end HyderabadHomes
