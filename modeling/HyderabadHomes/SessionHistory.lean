import HyderabadHomes.Effects
import HyderabadHomes.LoginSearch
import HyderabadHomes.Transition.Register

/-! What a session keeps of its browser's past. The stored path decides where a login leads,
the columns of the listing displayed last are what the favourites page searches for. -/
namespace HyderabadHomes
open Relational Transition

namespace Scope
variable {α : Type} (s : Scope α)

def ends (db : Db) (session : Session) : AccountRequest α → Bool
  | .signOut => true
  | .destroy => (s.current db session).isSome
  | _ => false

def welcomes (db : Db) (session : Session) : AccountRequest α → Bool
  | .new => (s.current db session).isSome
  | .signUp _ _ => (s.current db session).isSome
  | .signIn _ => (s.current db session).isSome
  | .forgotPassword _ => (s.current db session).isSome
  | .editPassword => (s.current db session).isSome
  | .resetPassword account => (s.current db session).isSome || (account.bind (s.table db).find?).isSome
  | .cancel => (s.current db session).isSome
  | _ => false

/-- A part of the session that signing in does not touch. -/
theorem handle_session {β : Type} {part : Session → β} (kept : ∀ id session, part (s.setAccount id session) = part session)
    (db : Db) (session : Session) (request : AccountRequest α) :
    part (s.handle db session request).2.1 =
      if s.ends db session request then part Session.empty
      else if s.welcomes db session request then part (s.afterSignInPathFor session).1
      else part session := by
  cases current : s.current db session with
  | some id =>
    cases request with
    | update record accepted =>
      simp only [handle,ends,welcomes,current]
      split
      · rfl
      · split <;> rfl
    | _ => simp [handle,requireNoAuthentication,ends,welcomes,current]
  | none =>
    cases request with
    | signUp record accepted =>
      simp only [handle,requireNoAuthentication,ends,welcomes,current]
      split
      · rfl
      · split
        · rfl
        · exact kept _ session
    | signIn account =>
      cases found : account.bind (s.table db).find? with
      | none => simp [handle,requireNoAuthentication,ends,welcomes,current,found]
      | some row => simp [handle,requireNoAuthentication,ends,welcomes,current,found,kept]
    | forgotPassword account =>
      simp only [handle,requireNoAuthentication,ends,welcomes,current]
      cases account.bind (s.table db).find? <;> rfl
    | resetPassword account =>
      cases found : account.bind (s.table db).find? with
      | none => simp [handle,requireNoAuthentication,ends,welcomes,current,found]
      | some row => simp [handle,requireNoAuthentication,ends,welcomes,current,found,kept]
    | _ => simp [handle,requireNoAuthentication,ends,welcomes,current]

end Scope

def Response.lastShown : Response → Option ListingKey
  | .render (.searchResults shown) => shown.getLast?.map fun row => row.1.val
  | _ => none

namespace Action

def clears (db : Db) (session : Session) : Action → Bool
  | .users request => usersScope.ends db session request
  | .administrators request => administratorsScope.ends db session request
  | _ => false

/-- What becomes of the return path: a visitor without an account is sent off with one, and
`after_sign_in_path_for` hands it out and forgets it. -/
def storesPath (db : Db) (session : Session) (action : Action) : Option (Option Path) :=
  if action.clears db session then some none
  else
    match action with
    | .home .addToCart => if (currentUser db session).isNone then some (some .homeAddToCart) else none
    | .users request => if usersScope.welcomes db session request then some none else none
    | _ => none

/-- What becomes of the columns of the last listing: a page of results that is not empty
leaves those of its last row. -/
def remembers (env : Env) (db : Db) (session : Session) (action : Action) : Option ListingKey :=
  if action.clears db session then some ⟨none,none,none⟩
  else
    match action with
    | .home _ => (serve env db session action).2.2.lastShown
    | _ => none

end Action

def Session.key (session : Session) : ListingKey := ⟨session.location,session.property,session.lookingFor⟩

theorem HomeController.renderSearch_session (db : Db) (session : Session) (rows : List (Row ListingKey)) :
    (renderSearch db session rows).1.returnTo = session.returnTo ∧
      (renderSearch db session rows).1.key = (renderSearch db session rows).2.lastShown.getD session.key := by
  unfold renderSearch
  cases page : renderRows db.properties db.lookingFors ListingKey.propertyId ListingKey.kindId rows with
  | error e => exact ⟨rfl,rfl⟩
  | ok shown =>
    obtain ⟨_,_,path,columns⟩ := remember_fold session shown
    refine ⟨path,?_⟩
    cases last : shown.getLast? with
    | none =>
      rw [List.getLast?_eq_none_iff.mp last]
      rfl
    | some row =>
      obtain ⟨location,property,kind⟩ := columns row last
      obtain ⟨propertyId,kindId⟩ := renderRows_names page row (List.mem_of_getLast? last)
      simp only [Response.lastShown,Session.key,location,property,kind,last,Option.map_some,Option.getD_some,
        ← propertyId,← kindId]

theorem HomeController.handle_session (db : Db) (session : Session) (request : HomeRequest) :
    (handle db session request).2.1.key = (handle db session request).2.2.lastShown.getD session.key ∧
      (handle db session request).2.1.returnTo =
        ((Action.home request).storesPath db session).getD session.returnTo := by
  cases request with
  | addToCart =>
    simp only [handle,addToCart,Action.storesPath,Action.clears]
    cases currentUser db session <;> exact ⟨rfl,rfl⟩
  | searchProperties plan search addr =>
    simp only [handle,searchProperties]
    cases search with
    | none => exact ⟨rfl,rfl⟩
    | some criteria =>
      simp only
      split
      · exact ⟨rfl,rfl⟩
      · obtain ⟨path,key⟩ := renderSearch_session db session _
        exact ⟨key,path⟩
  | addToFavourites plan =>
    simp only [handle,addToFavourites]
    split
    · exact ⟨rfl,rfl⟩
    · obtain ⟨path,key⟩ := renderSearch_session db session _
      exact ⟨key,path⟩
  | createProperties property answer =>
    simp only [handle]
    refine ⟨?_,rfl⟩
    cases reply : (createProperties (currentUser db session) property answer db.userLookingForProperties).2 with
    | render page => exact absurd reply (createProperties_not_render _ _ _ _ page)
    | _ => rfl
  | _ => exact ⟨rfl,rfl⟩

theorem serve_returnTo (env : Env) (db : Db) (session : Session) (action : Action) :
    (serve env db session action).2.1.returnTo = (action.storesPath db session).getD session.returnTo := by
  cases action with
  | home request => exact (HomeController.handle_session db session request).2
  | users request =>
    refine (usersScope.handle_session (fun _ _ => rfl) db session request).trans ?_
    unfold Action.storesPath
    by_cases ended : (Action.users request).clears db session = true
    · have cleared : usersScope.ends db session request = true := ended
      rw [if_pos ended,if_pos cleared]
      rfl
    · have stays : ¬ usersScope.ends db session request = true := ended
      rw [if_neg ended,if_neg stays]
      simp only
      split <;> rfl
  | administrators request =>
    refine (administratorsScope.handle_session (fun _ _ => rfl) db session request).trans ?_
    unfold Action.storesPath
    by_cases ended : (Action.administrators request).clears db session = true
    · have cleared : administratorsScope.ends db session request = true := ended
      rw [if_pos ended,if_pos cleared]
      rfl
    · have stays : ¬ administratorsScope.ends db session request = true := ended
      rw [if_neg ended,if_neg stays]
      simp only
      split <;> rfl
  | _ => rfl

theorem serve_key (env : Env) (db : Db) (session : Session) (action : Action) :
    (serve env db session action).2.1.key = (action.remembers env db session).getD session.key := by
  cases action with
  | home request => exact (HomeController.handle_session db session request).1
  | users request =>
    refine (usersScope.handle_session (fun _ _ => rfl) db session request).trans ?_
    unfold Action.remembers
    by_cases ended : (Action.users request).clears db session = true
    · have cleared : usersScope.ends db session request = true := ended
      rw [if_pos ended,if_pos cleared]
      rfl
    · have stays : ¬ usersScope.ends db session request = true := ended
      rw [if_neg ended,if_neg stays]
      simp only
      split <;> rfl
  | administrators request =>
    refine (administratorsScope.handle_session (fun _ _ => rfl) db session request).trans ?_
    unfold Action.remembers
    by_cases ended : (Action.administrators request).clears db session = true
    · have cleared : administratorsScope.ends db session request = true := ended
      rw [if_pos ended,if_pos cleared]
      rfl
    · have stays : ¬ administratorsScope.ends db session request = true := ended
      rw [if_neg ended,if_neg stays]
      simp only
      split <;> rfl
  | _ => rfl

namespace Request

def storesPath (browser : Nat) (app : App) (request : Request) : Option (Option Path) :=
  if request.browser = browser then request.action.storesPath app.db (app.sessions browser) else none

def remembers (env : Env) (browser : Nat) (app : App) (request : Request) : Option ListingKey :=
  if request.browser = browser then request.action.remembers env app.db (app.sessions browser) else none

end Request

theorem App.next_returnTo (env : Env) (browser : Nat) (app : App) (request : Request) :
    ((app.next env request).sessions browser).returnTo =
      (request.storesPath browser app).getD (app.sessions browser).returnTo := by
  unfold Request.storesPath
  by_cases own : request.browser = browser
  · subst own
    rw [if_pos rfl,← serve_returnTo env]
    simp [next,step]
  · rw [if_neg own]
    simp [next,step,Ne.symm own]

theorem App.next_key (env : Env) (browser : Nat) (app : App) (request : Request) :
    ((app.next env request).sessions browser).key =
      (request.remembers env browser app).getD (app.sessions browser).key := by
  unfold Request.remembers
  by_cases own : request.browser = browser
  · subst own
    rw [if_pos rfl,← serve_key env]
    simp [next,step]
  · rw [if_neg own]
    simp [next,step,Ne.symm own]

/-- Only `deny_access` stores a path, and it is always the same. -/
theorem Action.storesPath_eq_some {db : Db} {session : Session} {action : Action} {path : Path} :
    action.storesPath db session = some (some path) ↔
      action = .home .addToCart ∧ currentUser db session = none ∧ path = .homeAddToCart := by
  unfold storesPath
  by_cases cleared : action.clears db session = true
  · rw [if_pos cleared]
    constructor
    · intro stored
      cases stored
    · intro denied
      rw [denied.1] at cleared
      cases cleared
  · rw [if_neg cleared]
    cases action with
    | home request =>
      cases request with
      | addToCart => cases currentUser db session <;> simp [eq_comm]
      | _ => simp
    | users request => cases usersScope.welcomes db session request <;> simp
    | _ => simp

theorem Request.storesPath_eq_some {browser : Nat} {app : App} {request : Request} {path : Path} :
    request.storesPath browser app = some (some path) ↔
      request = ⟨browser,.home .addToCart⟩ ∧ currentUser app.db (app.sessions browser) = none ∧ path = .homeAddToCart := by
  obtain ⟨sender,action⟩ := request
  unfold storesPath
  by_cases own : sender = browser
  · subst own
    rw [if_pos rfl]
    simpa using Action.storesPath_eq_some
  · simp [own]

/-- The browser has been denied `add_to_cart`, and no request of its own has changed the
stored path since. -/
def DeniedBefore (env : Env) (db : Db) (requests : List Request) (browser j : Nat) : Prop :=
  ∃ i, i < j ∧ requests[i]? = some ⟨browser,.home .addToCart⟩ ∧
    (let before := stateAt (App.next env) (App.init db) requests i
    currentUser before.db (before.sessions browser) = none) ∧
    Quiet (App.next env) (Request.storesPath browser) (App.init db) requests (i+1) j

theorem returnTo_iff (env : Env) (db : Db) (requests : List Request) (browser j : Nat) (path : Path) :
    ((stateAt (App.next env) (App.init db) requests j).sessions browser).returnTo = some path ↔
      DeniedBefore env db requests browser j ∧ path = .homeAddToCart := by
  refine (@register_iff App Request (Option Path) (App.next env) (Request.storesPath browser)
    (fun app => (app.sessions browser).returnTo) (App.next_returnTo env browser) (App.init db) requests j
    (some path)).trans ?_
  constructor
  · intro last
    rcases last with ⟨i,before,⟨request,taken,wrote⟩,since⟩ | ⟨start,_⟩
    · obtain ⟨rfl,anonymous,same⟩ := Request.storesPath_eq_some.mp wrote
      exact ⟨⟨i,before,taken,anonymous,since⟩,same⟩
    · cases start
  · intro denied
    obtain ⟨⟨i,before,taken,anonymous,since⟩,same⟩ := denied
    exact .inl ⟨i,before,⟨_,taken,Request.storesPath_eq_some.mpr ⟨rfl,anonymous,same⟩⟩,since⟩

theorem returnTo_isNone_iff (env : Env) (db : Db) (requests : List Request) (browser j : Nat) :
    ((stateAt (App.next env) (App.init db) requests j).sessions browser).returnTo.isNone ↔
      ¬ DeniedBefore env db requests browser j := by
  cases held : ((stateAt (App.next env) (App.init db) requests j).sessions browser).returnTo with
  | none =>
    simp only [Option.isNone_none,true_iff]
    intro denied
    rw [(returnTo_iff env db requests browser j .homeAddToCart).mpr ⟨denied,rfl⟩] at held
    cases held
  | some path =>
    have denied := ((returnTo_iff env db requests browser j path).mp held).1
    simp [denied]

theorem signIn_of_anonymous {env : Env} {db : Db} {session : Session} {account : Option Int} {path : Path}
    {notice : Option String} (anonymous : currentUser db session = none)
    (moved : (serve env db session (.users (.signIn account))).2.2 = .redirect path notice) :
    path = usersScope.afterSignIn session := by
  have current : usersScope.current db session = none := anonymous
  simp only [serve,Scope.handle,Scope.requireNoAuthentication,current] at moved
  cases found : account.bind (usersScope.table db).find? with
  | none =>
    rw [found] at moved
    cases moved
  | some row =>
    rw [found] at moved
    cases moved
    rfl

/-- Whoever is signed in already is not welcomed again. -/
theorem signIn_path {env : Env} {db : Db} {session : Session} {account : Option Int} {path : Path}
    (signedIn : (serve env db session (.users (.signIn account))).2.2 = .redirect path (some "Signed in successfully.")) :
    path = usersScope.afterSignIn session := by
  cases current : currentUser db session with
  | none => exact signIn_of_anonymous current signedIn
  | some id =>
    have known : usersScope.current db session = some id := current
    simp only [serve,Scope.handle,Scope.requireNoAuthentication,known] at signedIn
    cases signedIn

theorem signUp_path {env : Env} {db : Db} {session : Session} {record : User} {accepted : Bool} {path : Path}
    (signedUp : (serve env db session (.users (.signUp record accepted))).2.2 =
      .redirect path (some "Welcome! You have signed up successfully.")) : path = usersScope.afterSignUp session := by
  simp only [serve,Scope.handle,Scope.requireNoAuthentication] at signedUp
  cases current : usersScope.current db session with
  | some id =>
    rw [current] at signedUp
    cases signedUp
  | none =>
    rw [current] at signedUp
    simp only at signedUp
    split at signedUp
    · cases signedUp
    · split at signedUp
      · cases signedUp
      · cases signedUp
        rfl

/-- Where the login of a user leads is decided by the history of its browser: back to the search after
a denied `add_to_cart` whose path has not been handed out or cleared since, be there logins
in between or not, and to the dashboard otherwise. -/
theorem login_follows_history (env : Env) (db : Db) (requests : List Request) (browser j : Nat) (path : Path) :
    let app := stateAt (App.next env) (App.init db) requests j
    (∀ account, (app.step env ⟨browser,.users (.signIn account)⟩).2 = .redirect path (some "Signed in successfully.") →
        (path = .homeSearchProperties ∧ DeniedBefore env db requests browser j) ∨
          (path = .usersDashboardIndex ∧ ¬ DeniedBefore env db requests browser j)) ∧
      (∀ record accepted, (app.step env ⟨browser,.users (.signUp record accepted)⟩).2 =
          .redirect path (some "Welcome! You have signed up successfully.") →
        (path = .homeAddToCart ∧ DeniedBefore env db requests browser j) ∨
          (path = .usersDashboardIndex ∧ ¬ DeniedBefore env db requests browser j)) := by
  intro app
  have held := returnTo_isNone_iff env db requests browser j
  constructor
  · intro account signedIn
    rw [App.step_response] at signedIn
    rw [signIn_path signedIn]
    by_cases denied : DeniedBefore env db requests browser j
    · exact .inl ⟨if_neg fun empty => held.mp empty denied,denied⟩
    · exact .inr ⟨if_pos (held.mpr denied),denied⟩
  · intro record accepted signedUp
    rw [App.step_response] at signedUp
    rw [signUp_path signedUp]
    by_cases denied : DeniedBefore env db requests browser j
    · exact .inl ⟨if_neg fun empty => held.mp empty denied,denied⟩
    · exact .inr ⟨if_pos (held.mpr denied),denied⟩

def loggedInTwice : List Request :=
  [⟨0,.home .addToCart⟩,⟨0,.users (.signUp ⟨"a@x"⟩ true)⟩,⟨1,.users (.signUp ⟨"b@x"⟩ true)⟩,
    ⟨2,.users (.signIn (some 1))⟩,⟨2,.users .destroy⟩]

theorem second_login_still_resumes : DeniedBefore .production .empty loggedInTwice 0 5 := by
  rcases (login_follows_history .production .empty loggedInTwice 0 5 .homeSearchProperties).1 (some 2) rfl with
    ⟨_,denied⟩ | ⟨other,_⟩
  · exact denied
  · cases other

def ListingKey.Shares (a b : ListingKey) : Prop :=
  (∃ id, a.propertyId = some id ∧ b.propertyId = some id) ∨ (∃ id, a.kindId = some id ∧ b.kindId = some id) ∨
    ∃ s, a.location = some s ∧ b.location = some s

theorem asInteger_ofInteger {held : Option Int} {id : Int} :
    (Literal.ofInteger held).asInteger = .ok (some id) ↔ held = some id := by
  cases held <;> simp [Literal.ofInteger,Literal.asInteger]

theorem ofText_eq_text {held : Option String} {s : String} : Literal.ofText held = .text s ↔ held = some s := by
  cases held <;> simp [Literal.ofText]

theorem hits_session_iff {db : Db} {session : Session} {l : Joined UserLookingForProperty}
    (listed : UserLookingForProperty.Listing db l) :
    UserLookingForProperty.Hits (.ofInteger session.property) (.ofInteger session.lookingFor) (.ofText session.location) l ↔
      session.key.Shares (UserLookingForProperty.model.keyOf l.listing.val) := by
  have property : l.listing.val.propertyId = some l.property.id := listed.propertyId
  have kind : l.listing.val.lookingForId = some l.kind.id := listed.kindId
  unfold UserLookingForProperty.Hits ListingKey.Shares
  simp only [asInteger_ofInteger,ofText_eq_text,Session.key,ListingModel.keyOf,UserLookingForProperty.model,property,kind,
    Option.some.injEq,exists_eq_right']

/-- The favourites page searches for the columns of the listing that its browser was shown last
in the public search or on the favourites page, and never fails. -/
theorem favourites_follow_last_listing (env : Env) (db : Db) (requests : List Request) (browser j : Nat) {key : ListingKey}
    (last : Last (App.next env) (Request.remembers env browser) (App.init db) requests (key = ⟨none,none,none⟩) j key)
    (plan : Plan) :
    let app := stateAt (App.next env) (App.init db) requests j
    ∃ shown, (app.step env ⟨browser,.home (.addToFavourites plan)⟩).2 = .render (.searchResults shown) ∧
      ∀ other, other ∈ keysOf shown ↔ ∃ l, UserLookingForProperty.Listing app.db l ∧
        UserLookingForProperty.model.keyOf l.listing.val = other ∧ key.Shares other := by
  intro app
  have held : (app.sessions browser).key = key := by
    refine (@register_iff App Request ListingKey (App.next env) (Request.remembers env browser)
      (fun app => (app.sessions browser).key) (App.next_key env browser) (App.init db) requests j key).mpr ?_
    exact last.imp_right fun start => ⟨start.1.symm,start.2⟩
  obtain ⟨shown,page,ok⟩ := serve_addToFavourites env plan app.db (app.sessions browser)
  refine ⟨shown,page,fun other => ?_⟩
  rw [keysOf_eq,UserLookingForProperty.search_keys ok]
  constructor
  · intro found
    obtain ⟨l,listed,hit,same⟩ := found
    exact ⟨l,listed,same,by rw [← held,← same]; exact (hits_session_iff listed).mp hit⟩
  · intro found
    obtain ⟨l,listed,same,shares⟩ := found
    exact ⟨l,listed,(hits_session_iff listed).mpr (by rw [held,same]; exact shares),same⟩

def searchedForFlats : List Request :=
  [⟨0,.home (.searchProperties (DistinctOn.first Row.val) (some ⟨some "1",some "1"⟩) none)⟩,⟨1,.home .addToCart⟩]

theorem favourites_after_search :
    let app := stateAt (App.next .production) oneListing searchedForFlats 2
    ∃ shown, (app.step .production ⟨0,.home (.addToFavourites (DistinctOn.first Row.val))⟩).2 =
        .render (.searchResults shown) ∧
      ∀ other, other ∈ keysOf shown ↔ ∃ l, UserLookingForProperty.Listing app.db l ∧
        UserLookingForProperty.model.keyOf l.listing.val = other ∧
          ListingKey.Shares ⟨some "Hyderabad",some 1,some 1⟩ other := by
  refine favourites_follow_last_listing .production oneListing.db searchedForFlats 0 2 ?_ (DistinctOn.first Row.val)
  refine .inl ⟨0,by decide,⟨_,rfl,by decide⟩,?_⟩
  intro n request low high taken
  obtain rfl : n = 1 := by omega
  cases taken
  rfl

end HyderabadHomes
