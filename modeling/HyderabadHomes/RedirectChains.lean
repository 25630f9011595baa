import HyderabadHomes.Redirects

/-! Redirects that lead to redirects. Every hop spends some of what the path before it could
still lead through, so a browser that follows them arrives. -/
namespace HyderabadHomes
open Relational Transition

def Path.hops (signedIn : Bool) : Path → Nat
  | .newUserRegistration => if signedIn then 2 else 0
  | .newUserSession => if signedIn then 2 else 0
  | .newAdministratorRegistration => 1
  | .newAdministratorSession => 1
  | .homeAddToCart => 1
  | .usersUserProperties => if signedIn then 0 else 1
  | .usersUserProperty _ => if signedIn then 0 else 1
  | .usersUserLookingForProperties => if signedIn then 0 else 1
  | .usersUserLookingForProperty _ => if signedIn then 0 else 1
  | _ => 0

theorem Path.hops_le (signedIn : Bool) (path : Path) : path.hops signedIn ≤ 2 := by
  cases path <;> cases signedIn <;> simp [hops]

theorem serve_resumes {env : Env} {db : Db} {session : Session} (resumes : session.Resumes) (action : Action) :
    (serve env db session action).2.1.Resumes := by
  intro path held
  rw [serve_returnTo] at held
  cases stored : action.storesPath db session with
  | none =>
    rw [stored] at held
    exact resumes path held
  | some left =>
    rw [stored,Option.getD_some] at held
    rw [held] at stored
    exact (Action.storesPath_eq_some.mp stored).2.2

section Hop
variable {env : Env} {db : Db} {session : Session} {plan : Plan} {target : Path} {notice : Option String}

structure Hop (db : Db) (session : Session) (path : Path) (reply : Db × Session × Response) (target : Path) : Prop where
  user : currentUser reply.1 reply.2.1 = currentUser db session
  spent : target.hops (currentUser db session).isSome < path.hops (currentUser db session).isSome

theorem users_new_hop (resumes : session.Resumes) (moved : (serve env db session (.users .new)).2.2 = .redirect target notice)
    {path : Path} (full : path.hops true = 2) : Hop db session path (serve env db session (.users .new)) target := by
  cases current : currentUser db session with
  | none =>
    have anonymous : usersScope.current db session = none := current
    simp only [serve,Scope.handle,Scope.requireNoAuthentication,anonymous] at moved
    cases moved
  | some id =>
    have known : usersScope.current db session = some id := current
    have reply : serve env db session (.users .new) =
        (db,{session with returnTo := none},.redirect (session.returnTo.getD .root) none) := by
      simp only [serve,Scope.handle,Scope.requireNoAuthentication,known]
      rfl
    rw [reply] at moved ⊢
    cases moved
    refine ⟨rfl,?_⟩
    rw [current,Option.isSome_some,full]
    cases held : session.returnTo with
    | none => decide
    | some path =>
      rw [resumes path held]
      decide

theorem administrators_new_hop (moved : (serve env db session (.administrators .new)).2.2 = .redirect target notice)
    {path : Path} (one : ∀ signedIn, path.hops signedIn = 1) :
    Hop db session path (serve env db session (.administrators .new)) target := by
  cases current : administratorsScope.current db session with
  | none =>
    simp only [serve,Scope.handle,Scope.requireNoAuthentication,current] at moved
    cases moved
  | some id =>
    have reply : serve env db session (.administrators .new) = (db,session,.redirect .root none) := by
      simp only [serve,Scope.handle,Scope.requireNoAuthentication,current]
      rfl
    rw [reply] at moved ⊢
    cases moved
    refine ⟨rfl,?_⟩
    rw [one]
    exact Nat.one_pos

theorem ListingKind.index_plain (k : ListingKind) (onPage : Row k.Record → Bool) (user : Int) :
    (k.controller.handle env db user (.index onPage)).2.redirects = false := k.controller.renderListings_plain db _

theorem ListingKind.show_plain (k : ListingKind) (id : String) (user : Int) :
    (k.controller.handle env db user (.show id)).2.redirects = false := by
  simp only [ListingController.handle]
  cases (k.controller.table db).find? (Ruby.toI id) with
  | none => rfl
  | some row => exact k.controller.renderListings_plain db [row]

theorem ListingKind.get_hop (k : ListingKind) {request : ListingRequest k.Record} {path : Path}
    (plain : ∀ user, (k.controller.handle env db user request).2.redirects = false) (one : path.hops false = 1)
    (moved : (serve env db session (k.action request)).2.2 = .redirect target notice) :
    Hop db session path (serve env db session (k.action request)) target := by
  cases current : currentUser db session with
  | none =>
    have reply : serve env db session (k.action request) = (db,session,.redirect .newUserSession none) := by
      cases k <;> simp only [action,serve,authenticateUser,current]
    rw [reply] at moved ⊢
    cases moved
    refine ⟨rfl,?_⟩
    rw [current,Option.isSome_none,one]
    decide
  | some user =>
    rw [serve_action,authenticateUser,current] at moved
    exact absurd moved (Response.not_moved (plain user) _ _)

theorem addToCart_hop (moved : (serve env db session (.home .addToCart)).2.2 = .redirect target notice) :
    Hop db session .homeAddToCart (serve env db session (.home .addToCart)) target := by
  cases current : currentUser db session with
  | none =>
    rw [serve_addToCart_anonymous env current] at moved ⊢
    cases moved
    refine ⟨rfl,?_⟩
    rw [current,Option.isSome_none]
    decide
  | some user =>
    rw [serve_addToCart_signedIn env current] at moved ⊢
    cases moved
    refine ⟨rfl,?_⟩
    rw [current,Option.isSome_some]
    decide

theorem follow_hop (resumes : session.Resumes) {path : Path}
    (moved : (serve env db session (path.action plan)).2.2 = .redirect target notice) :
    Hop db session path (serve env db session (path.action plan)) target := by
  cases path with
  | newUserRegistration => exact users_new_hop resumes moved rfl
  | newUserSession => exact users_new_hop resumes moved rfl
  | newAdministratorRegistration => exact administrators_new_hop moved fun _ => rfl
  | newAdministratorSession => exact administrators_new_hop moved fun _ => rfl
  | homeAddToCart => exact addToCart_hop moved
  | usersUserProperties =>
    exact ListingKind.userProperties.get_hop (ListingKind.userProperties.index_plain _) rfl moved
  | usersUserProperty id =>
    exact ListingKind.userProperties.get_hop (ListingKind.userProperties.show_plain _) rfl moved
  | usersUserLookingForProperties =>
    exact ListingKind.userLookingForProperties.get_hop (ListingKind.userLookingForProperties.index_plain _) rfl moved
  | usersUserLookingForProperty id =>
    exact ListingKind.userLookingForProperties.get_hop (ListingKind.userLookingForProperties.show_plain _) rfl moved
  | homeAddToFavourites =>
    obtain ⟨again,page,_⟩ := serve_addToFavourites env plan db session
    rw [Path.action,page] at moved
    cases moved
  | usersDashboardIndex => exact absurd moved (Response.not_moved (UsersDashboard.handle_plain db _ .index) _ _)
  | usersProfile id => exact absurd moved (Response.not_moved (ProfilesController.show_plain _ _ _) _ _)
  | administratorsCatalogRow c id =>
    simp only [Path.action,serve,CatalogController.handle] at moved
    split at moved <;> cases moved
  | _ => cases moved

end Hop

/-- With more GETs to spend than the path has hops, the browser arrives. -/
theorem App.follow_arrives (env : Env) (plan : Plan) (browser : Nat) {n : Nat} {reply : App × Response}
    (resumes : (reply.1.sessions browser).Resumes)
    (enough : ∀ path notice, reply.2 = .redirect path notice →
      path.hops (currentUser reply.1.db (reply.1.sessions browser)).isSome < n) (target : Path) (notice : Option String) :
    (App.follow env plan browser n reply).2 ≠ .redirect target notice := by
  induction n generalizing reply with
  | zero =>
    intro moved
    exact absurd (enough target notice moved) (Nat.not_lt_zero _)
  | succ n ih =>
    obtain ⟨app,response⟩ := reply
    cases response with
    | redirect path notice' =>
      have bound := enough path notice' rfl
      apply ih
      · rw [App.step_session]
        exact serve_resumes resumes _
      · intro next notice'' moved
        have hop := follow_hop resumes moved
        rw [App.step_db,App.step_session,hop.user]
        exact Nat.lt_of_lt_of_le hop.spent (Nat.le_of_lt_succ bound)
    | render page =>
      intro moved
      cases moved
    | error e =>
      intro moved
      cases moved

/-- No request ends in a circle of redirects: in every state of every run, the browser is
at a page or an exception after at most three GETs. -/
theorem redirects_end (env : Env) (db : Db) (requests : List Request) (browser j : Nat) (action : Action) (plan : Plan)
    (target : Path) (notice : Option String) :
    let app := stateAt (App.next env) (App.init db) requests j
    (App.follow env plan browser 3 (app.step env ⟨browser,action⟩)).2 ≠ .redirect target notice := by
  intro app
  have resumes := App.stateAt_resumes env db requests browser j
  apply App.follow_arrives
  · rw [App.step_session]
    exact serve_resumes resumes action
  · intro path notice' _
    exact Nat.lt_succ_of_le (Path.hops_le _ path)

end HyderabadHomes
