import HyderabadHomes.Confirmation
import HyderabadHomes.Orphans
import HyderabadHomes.References
import HyderabadHomes.SessionHistory

/-! Where redirects lead. The row that a saving action redirects to is there, and as long as
references are intact the page behind a redirect fails in two cases only. -/
namespace HyderabadHomes
open Relational Transition

theorem Saves.lands {α : Type} {path : Int → Path} {index : Path} {t : Table α} {reply : Table α × Response}
    (saves : Saves path index t reply) {target : Path} {notice : Option String}
    (moved : reply.2 = .redirect target notice) : target = index ∨ ∃ id ∈ reply.1.ids, target = path id := by
  cases saves with
  | idle plain =>
    cases moved
    cases plain
  | inserted val notice =>
    cases moved
    have member : t.seq+1 ∈ (t.insert val).ids := by simp [Table.ids_insert]
    exact .inr ⟨_,member,rfl⟩
  | updated member change notice =>
    cases moved
    exact .inr ⟨_,Table.mem_ids_update _ change (List.mem_map_of_mem member),rfl⟩
  | deleted id notice =>
    cases moved
    exact .inl rfl

theorem Response.not_moved {response : Response} (plain : response.redirects = false) (path : Path)
    (notice : Option String) : response ≠ .redirect path notice := by
  rintro rfl
  cases plain

theorem HomeController.renderSearch_plain (db : Db) (session : Session) (rows : List (Row ListingKey)) :
    (renderSearch db session rows).2.redirects = false := by
  unfold renderSearch
  cases renderRows db.properties db.lookingFors ListingKey.propertyId ListingKey.kindId rows <;> rfl

theorem HomeController.createProperties_redirect {currentUser : Option Int} {property : Option (List (Option String))}
    {answer : Row UserLookingForProperty → Geocoding} {t : Table UserLookingForProperty} {path : Path}
    {notice : Option String} (moved : (createProperties currentUser property answer t).2 = .redirect path notice) :
    path = .usersUserLookingForProperties := by
  unfold createProperties favouritesAdded at moved
  split at moved
  · cases moved
  · split at moved
    · cases moved
    · split at moved
      · split at moved
        · cases moved
          rfl
        · cases moved
      · split at moved
        · cases moved
          rfl
        · cases moved

theorem UsersDashboard.handle_plain (db : Db) (user : Option Int) (request : DashboardRequest) :
    (handle db user request).2.redirects = false := by
  cases request with
  | index => cases user <;> rfl
  | inviteFriends => rfl
  | «import» contacts => cases contacts <;> rfl
  | createContacts email => cases email <;> rfl
  | missing action => rfl

def Session.Resumes (session : Session) : Prop := ∀ path, session.returnTo = some path → path = .homeAddToCart

theorem App.stateAt_resumes (env : Env) (db : Db) (requests : List Request) (browser j : Nat) :
    ((stateAt (App.next env) (App.init db) requests j).sessions browser).Resumes := by
  intro path held
  exact ((returnTo_iff env db requests browser j path).mp held).2

def Path.Present (db : Db) (session : Session) : Path → Prop
  | .usersProfile id => id ∈ db.profiles.ids
  | .usersUserProperty id => id ∈ db.userProperties.ids
  | .usersUserLookingForProperty id => id ∈ db.userLookingForProperties.ids
  | .administratorsCatalogRow c id => id ∈ (db.catalog c).ids
  | .usersDashboardIndex => (currentUser db session).isSome
  | _ => True

namespace Scope
variable {α : Type} (s : Scope α) {db : Db} {session : Session}

/-- The paths that a request to a scope redirects to. After a login the account is the
current one of its scope. -/
inductive Moves (db : Db) (session : Session) : AccountRequest α → Db × Session × Response → Path → Prop
  | root {request : AccountRequest α} {reply : Db × Session × Response} : Moves db session request reply .root
  | registration {request : AccountRequest α} {reply : Db × Session × Response} :
      Moves db session request reply s.newRegistration
  | session {request : AccountRequest α} {reply : Db × Session × Response} : Moves db session request reply s.newSession
  | resumed {request : AccountRequest α} {reply : Db × Session × Response} :
      Moves db session request reply (s.afterSignInPathFor session).2
  | signedUp {request : AccountRequest α} {response : Response} (record : α) :
      Moves db session request
        (s.setTable ((s.table db).insert record) db,s.setAccount ((s.table db).seq+1) session,response) (s.afterSignUp session)
  | signedIn {account : Option Int} {response : Response} (anonymous : s.current db session = none) {row : Row α}
      (member : row ∈ (s.table db).rows) :
      Moves db session (.signIn account) (db,s.setAccount row.id session,response) (s.afterSignIn session)

variable {request : AccountRequest α} {path : Path} {notice : Option String}

theorem requireNoAuthentication_moves {reply : Db × Session × Response}
    (own : s.current db session = none → reply.2.2 = .redirect path notice → s.Moves db session request reply path)
    (moved : (s.requireNoAuthentication db session reply).2.2 = .redirect path notice) :
    s.Moves db session request (s.requireNoAuthentication db session reply) path := by
  unfold requireNoAuthentication at moved ⊢
  cases current : s.current db session with
  | some id =>
    rw [current] at moved
    cases moved
    exact .resumed
  | none =>
    rw [current] at moved
    exact own current moved

theorem handle_moves (moved : (s.handle db session request).2.2 = .redirect path notice) :
    s.Moves db session request (s.handle db session request) path := by
  cases request with
  | new => exact s.requireNoAuthentication_moves (fun _ shown => by cases shown) moved
  | signUp record accepted =>
    refine s.requireNoAuthentication_moves (fun _ moved => ?_) moved
    split at moved
    · cases moved
    · rename_i passed
      split at moved
      · cases moved
      · rename_i fit
        rw [if_neg passed,if_neg fit]
        cases moved
        exact .signedUp record
  | signIn account =>
    refine s.requireNoAuthentication_moves (fun anonymous moved => ?_) moved
    cases found : account.bind (s.table db).find? with
    | none =>
      rw [found] at moved
      cases moved
    | some row =>
      rw [found] at moved
      cases moved
      obtain ⟨id,_,here⟩ := Option.bind_eq_some_iff.mp found
      exact .signedIn anonymous (Table.find?_eq_some.mp here).1
  | forgotPassword account =>
    refine s.requireNoAuthentication_moves (fun _ moved => ?_) moved
    cases found : account.bind (s.table db).find? with
    | none =>
      rw [found] at moved
      cases moved
    | some row =>
      rw [found] at moved
      cases moved
      exact .session
  | editPassword => exact s.requireNoAuthentication_moves (fun _ shown => by cases shown) moved
  | resetPassword account =>
    refine s.requireNoAuthentication_moves (fun _ moved => ?_) moved
    cases found : account.bind (s.table db).find? with
    | none =>
      rw [found] at moved
      cases moved
    | some row =>
      rw [found] at moved
      cases moved
      exact .resumed
  | cancel =>
    refine s.requireNoAuthentication_moves (fun _ moved => ?_) moved
    cases moved
    exact .registration
  | edit =>
    simp only [handle] at moved ⊢
    cases current : s.current db session with
    | none =>
      rw [current] at moved
      cases moved
      exact .session
    | some id =>
      rw [current] at moved
      cases moved
  | update record accepted =>
    simp only [handle] at moved ⊢
    cases current : s.current db session with
    | none =>
      rw [current] at moved
      cases moved
      exact .session
    | some id =>
      simp only [current] at moved
      split at moved
      · cases moved
      · split at moved
        · cases moved
        · cases moved
          exact .root
  | destroy =>
    simp only [handle] at moved ⊢
    cases current : s.current db session with
    | none =>
      rw [current] at moved
      cases moved
      exact .session
    | some id =>
      rw [current] at moved
      cases moved
      exact .root
  | signOut =>
    cases moved
    exact .root

end Scope

theorem currentUser_isSome {db : Db} {session : Session} {id : Int} (account : session.user = some id)
    (stored : id ∈ db.users.ids) : (currentUser db session).isSome := by
  rw [currentUser_eq_some account ((Table.mem_ids_iff_find ..).mp stored)]
  rfl

namespace ProfilesController
open Profile
variable {env : Env} {attrs : Attrs} {addr dob : Option String} {answer : Geocoding} {t : Table Profile} {path : Path}
  {notice : Option String}

theorem new_plain (user : Int) (t : Table Profile) : (new user t).redirects = false := by
  unfold new
  cases ofUser t user <;> rfl

theorem edit_plain (id : String) (t : Table Profile) : (edit id t).redirects = false := by
  unfold edit
  cases t.find? (Ruby.toI id) <;> rfl

theorem show_plain (user : Option Int) (id : String) (t : Table Profile) : («show» user id t).redirects = false := by
  unfold «show»
  cases t.find? (Ruby.toI id) with
  | none => rfl
  | some row =>
    cases user with
    | none => rfl
    | some user =>
      simp only
      cases ofUser t user <;> rfl

theorem create_moves {user : Int} (moved : (create env user attrs addr answer t).2 = .redirect path notice) :
    path = .usersProfile (t.seq+1) ∧
      ∃ stored, stored.userId = some user ∧ (create env user attrs addr answer t).1 = (destroyTarget user t).insert stored := by
  unfold create at moved ⊢
  cases assigned : assign (attrAccessible env) env.strict fresh attrs with
  | error e =>
    rw [assigned] at moved
    cases moved
  | ok record =>
    simp only [assigned] at moved ⊢
    cases saved : save answer {record with userId := some user,workLocation := addr} with
    | stored stored =>
      rw [saved] at moved
      cases moved
      exact ⟨rfl,stored,(save_stored saved).1,rfl⟩
    | rejected =>
      rw [saved] at moved
      cases moved
    | raised e =>
      rw [saved] at moved
      cases moved

theorem update_moves {id : String} (moved : (update env id attrs addr dob answer t).2 = .redirect path notice) :
    ∃ row ∈ t.rows, path = .usersProfile row.id ∧
      ∃ change, (update env id attrs addr dob answer t).1 = t.update row.id change := by
  unfold update at moved ⊢
  cases found : t.find? (Ruby.toI id) with
  | none =>
    rw [found] at moved
    cases moved
  | some row =>
    simp only [found] at moved ⊢
    cases assigned : assign (attrAccessible env) env.strict {row.val with workLocation := addr,dob := dob} attrs with
    | error e =>
      rw [assigned] at moved
      cases moved
    | ok record =>
      simp only [assigned] at moved ⊢
      cases saved : save answer record with
      | stored stored =>
        rw [saved] at moved
        cases moved
        exact ⟨row,(Table.find?_eq_some.mp found).1,rfl,fun _ => stored,rfl⟩
      | rejected =>
        rw [saved] at moved
        cases moved
      | raised e =>
        rw [saved] at moved
        cases moved

end ProfilesController

section Moves
variable {env : Env} {db : Db} {session : Session} {path : Path} {notice : Option String}

theorem home_moves {request : HomeRequest} (moved : (serve env db session (.home request)).2.2 = .redirect path notice) :
    path = .newUserRegistration ∨ path = .homeAddToFavourites ∨ path = .usersUserLookingForProperties := by
  cases request with
  | addToCart =>
    simp only [serve,HomeController.handle,HomeController.addToCart] at moved
    cases current : currentUser db session with
    | none =>
      rw [current] at moved
      cases moved
      exact .inl rfl
    | some user =>
      rw [current] at moved
      cases moved
      exact .inr (.inl rfl)
  | createProperties property answer => exact .inr (.inr (HomeController.createProperties_redirect moved))
  | searchProperties plan search addr =>
    simp only [serve,HomeController.handle,HomeController.searchProperties] at moved
    cases search with
    | none => cases moved
    | some criteria =>
      simp only at moved
      split at moved
      · cases moved
      · exact absurd moved (Response.not_moved (HomeController.renderSearch_plain db session _) _ _)
  | addToFavourites plan =>
    simp only [serve,HomeController.handle,HomeController.addToFavourites] at moved
    split at moved
    · cases moved
    · exact absurd moved (Response.not_moved (HomeController.renderSearch_plain db session _) _ _)
  | _ => cases moved

theorem ListingKind.moves (k : ListingKind) {request : ListingRequest k.Record}
    (moved : (serve env db session (k.action request)).2.2 = .redirect path notice) :
    path = .newUserSession ∨ path = k.controller.index ∨
      ∃ id ∈ (k.controller.table (serve env db session (k.action request)).1).ids, path = k.controller.row id := by
  have reaches : (serve env db session (k.action request)).1 =
      (authenticateUser db session fun user => k.controller.handle env db user request).1 := by cases k <;> rfl
  have table : ∀ t db, k.controller.table (k.controller.setTable t db) = t := by cases k <;> exact fun _ _ => rfl
  rw [serve_action,authenticateUser] at moved
  rw [reaches,authenticateUser]
  cases current : currentUser db session with
  | none =>
    rw [current] at moved
    cases moved
    exact .inl rfl
  | some user =>
    obtain ⟨reply,saves,same⟩ := k.controller.handle_saves env db user request
    simp only [current,same,table] at moved ⊢
    exact .inr (saves.lands moved)

theorem catalogs_moves {c : Catalog} {request : CatalogRequest}
    (moved : (serve env db session (.catalogs c request)).2.2 = .redirect path notice) :
    path = .administratorsCatalog c.controller.model ∨
      ∃ d, ∃ id ∈ ((serve env db session (.catalogs c request)).1.catalog d).ids, path = .administratorsCatalogRow d id := by
  obtain ⟨reply,saves,same⟩ := c.controller.handle_saves env db request
  simp only [serve,same] at moved ⊢
  rcases saves.lands moved with index | ⟨id,member,row⟩
  · exact .inl index
  · refine .inr ⟨_,id,?_,row⟩
    rw [Db.catalog_setCatalog,if_pos rfl]
    exact member

theorem signIn_to_search {account : Option Int} (anonymous : currentUser db session = none)
    (denied : session.returnTo.isSome) (moved : (serve env db session (.users (.signIn account))).2.2 = .redirect path notice) :
    path = .homeSearchProperties := by
  rw [signIn_of_anonymous anonymous moved]
  have held : ¬ session.returnTo.isNone = true := by simpa using Option.isSome_iff_ne_none.mp denied
  exact if_neg held

inductive Lands (db : Db) (session : Session) (db' : Db) (session' : Session) : Action → Path → Prop
  | page {action : Action} {path : Path} (present : path.Present db' session') (search : path ≠ .homeSearchProperties)
      (profile : ∀ id, path ≠ .usersProfile id) : Lands db session db' session' action path
  | searched {account : Option Int} (anonymous : currentUser db session = none) (denied : session.returnTo.isSome) :
      Lands db session db' session' (.users (.signIn account)) .homeSearchProperties
  | created {attrs : Attrs} {addr : Option String} {answer : Geocoding} {user id : Int} (member : id ∈ db'.profiles.ids)
      (current : currentUser db' session' = some user) (own : Profile.ofUser db'.profiles user ≠ none) :
      Lands db session db' session' (.profiles (.create attrs addr answer)) (.usersProfile id)
  | updated {text : String} {attrs : Attrs} {addr dob : Option String} {answer : Geocoding} {id : Int}
      (member : id ∈ db'.profiles.ids) :
      Lands db session db' session' (.profiles (.update text attrs addr dob answer)) (.usersProfile id)

theorem users_lands {request : AccountRequest User} (resumes : session.Resumes)
    (moved : (serve env db session (.users request)).2.2 = .redirect path notice) :
    Lands db session (serve env db session (.users request)).1 (serve env db session (.users request)).2.1
      (.users request) path := by
  have moves : usersScope.Moves db session request (serve env db session (.users request)) path := usersScope.handle_moves moved
  generalize serve env db session (.users request) = reply at moves
  cases moves with
  | root => exact .page trivial (by simp) (by simp)
  | registration => exact .page trivial (by simp [usersScope]) (by simp [usersScope])
  | session => exact .page trivial (by simp [usersScope]) (by simp [usersScope])
  | resumed =>
    change Lands _ _ _ _ _ (session.returnTo.getD .root)
    cases held : session.returnTo with
    | none => exact .page trivial (by simp) (by simp)
    | some path =>
      rw [resumes path held]
      exact .page trivial (by simp) (by simp)
  | signedUp record =>
    by_cases empty : session.returnTo.isNone = true
    · have dashboard : usersScope.afterSignUp session = .usersDashboardIndex := if_pos empty
      rw [dashboard]
      exact .page (currentUser_isSome rfl (by simp [usersScope,Table.ids_insert])) (by simp) (by simp)
    · have cart : usersScope.afterSignUp session = .homeAddToCart := if_neg empty
      rw [cart]
      exact .page trivial (by simp) (by simp)
  | signedIn anonymous member =>
    by_cases empty : session.returnTo.isNone = true
    · have dashboard : usersScope.afterSignIn session = .usersDashboardIndex := if_pos empty
      rw [dashboard]
      exact .page (currentUser_isSome rfl (List.mem_map_of_mem member)) (by simp) (by simp)
    · have search : usersScope.afterSignIn session = .homeSearchProperties := if_neg empty
      rw [search]
      exact .searched anonymous (Option.isSome_iff_ne_none.mpr (by simpa using empty))

theorem profiles_lands {request : ProfileRequest}
    (moved : (serve env db session (.profiles request)).2.2 = .redirect path notice) :
    Lands db session (serve env db session (.profiles request)).1 (serve env db session (.profiles request)).2.1
      (.profiles request) path := by
  cases request with
  | create attrs addr answer =>
    simp only [serve,ProfilesController.handle] at moved ⊢
    cases current : currentUser db session with
    | none =>
      rw [current] at moved
      cases moved
    | some user =>
      rw [current] at moved
      obtain ⟨rfl,stored,owned,table⟩ := ProfilesController.create_moves moved
      simp only [table]
      refine .created (by simp [Table.ids_insert]) current fun none => ?_
      exact Profile.ofUser_eq_none.mp none _ (Table.mem_insert.mpr (.inr rfl)) owned
  | update id attrs addr dob answer =>
    obtain ⟨row,member,rfl,change,table⟩ := ProfilesController.update_moves moved
    simp only [serve,ProfilesController.handle,table]
    exact .updated (Table.mem_ids_update _ change (List.mem_map_of_mem member))
  | new =>
    simp only [serve,ProfilesController.handle] at moved
    cases current : currentUser db session with
    | none =>
      rw [current] at moved
      cases moved
    | some user =>
      rw [current] at moved
      exact absurd moved (Response.not_moved (ProfilesController.new_plain user _) _ _)
  | «show» id => exact absurd moved (Response.not_moved (ProfilesController.show_plain _ id _) _ _)
  | edit id => exact absurd moved (Response.not_moved (ProfilesController.edit_plain id _) _ _)
  | _ => cases moved

theorem ListingKind.lands (k : ListingKind) {request : ListingRequest k.Record}
    (moved : (serve env db session (k.action request)).2.2 = .redirect path notice) :
    Lands db session (serve env db session (k.action request)).1 (serve env db session (k.action request)).2.1
      (k.action request) path := by
  rcases k.moves moved with rfl | rfl | ⟨id,member,rfl⟩
  · exact .page trivial (by simp) (by simp)
  · cases k <;> exact .page trivial (by simp [controller,userPropertiesController,userLookingForPropertiesController])
      (by simp [controller,userPropertiesController,userLookingForPropertiesController])
  · cases k <;> exact .page member (by simp [controller,userPropertiesController,userLookingForPropertiesController])
      (by simp [controller,userPropertiesController,userLookingForPropertiesController])

theorem redirect_lands {action : Action} (resumes : session.Resumes)
    (moved : (serve env db session action).2.2 = .redirect path notice) :
    Lands db session (serve env db session action).1 (serve env db session action).2.1 action path := by
  cases action with
  | home request => rcases home_moves moved with rfl | rfl | rfl <;> exact .page trivial (by simp) (by simp)
  | userProperties request => exact ListingKind.userProperties.lands moved
  | userLookingForProperties request => exact ListingKind.userLookingForProperties.lands moved
  | profiles request => exact profiles_lands moved
  | usersDashboard request => exact absurd moved (Response.not_moved (UsersDashboard.handle_plain _ _ _) _ _)
  | catalogs c request =>
    rcases catalogs_moves moved with rfl | ⟨d,id,member,rfl⟩
    · exact .page trivial (by simp) (by simp)
    · exact .page member (by simp) (by simp)
  | administratorsDashboard => cases moved
  | administratorsDashboardMissing _ => cases moved
  | users request => exact users_lands resumes moved
  | administrators request =>
    have moves : administratorsScope.Moves db session request (serve env db session (.administrators request)) path :=
      administratorsScope.handle_moves moved
    generalize serve env db session (.administrators request) = reply at moves
    cases moves <;> exact .page trivial (by simp [administratorsScope]) (by simp [administratorsScope])

end Moves

def Response.Fails (response : Response) : Prop := ∃ e, response = .error e

theorem Scope.new_whole {α : Type} (s : Scope α) (db : Db) (session : Session) : ¬ (s.handle db session .new).2.2.Fails := by
  rintro ⟨e,failed⟩
  simp only [handle,requireNoAuthentication] at failed
  cases current : s.current db session <;> rw [current] at failed <;> cases failed

section Follow
variable {env : Env} {db : Db} {session : Session} (whole : Integrity db)
include whole

theorem ListingKind.renderListings_whole (k : ListingKind) {rows : List (Row k.Record)}
    (inside : ∀ row ∈ rows, row ∈ (k.controller.table db).rows) : ¬ (k.controller.renderListings db rows).Fails := by
  have renders : ∃ shown, renderRows db.properties (db.catalog k.controller.kinds) k.controller.model.propertyId
      k.controller.model.kindId rows = .ok shown ∧ shown.map (·.1) = rows := by
    cases k with
    | userProperties => exact whole.1.viewable.renders rows inside
    | userLookingForProperties => exact whole.2.viewable.renders rows inside
  obtain ⟨shown,ok,_⟩ := renders
  rintro ⟨e,failed⟩
  simp only [ListingController.renderListings,ok] at failed
  cases failed

theorem ListingKind.index_whole (k : ListingKind) (onPage : Row k.Record → Bool) :
    ¬ (serve env db session (k.action (.index onPage))).2.2.Fails := by
  rw [serve_action,authenticateUser]
  cases currentUser db session with
  | none =>
    rintro ⟨e,failed⟩
    cases failed
  | some user =>
    apply k.renderListings_whole whole
    intro row member
    exact (List.mem_filter.mp (List.mem_reverse.mp member)).1

theorem ListingKind.show_whole (k : ListingKind) {id : Int} (stored : id ∈ (k.controller.table db).ids) :
    ¬ (serve env db session (k.action (.show (toString id)))).2.2.Fails := by
  rw [serve_action,authenticateUser]
  cases currentUser db session with
  | none =>
    rintro ⟨e,failed⟩
    cases failed
  | some user =>
    obtain ⟨row,found⟩ := Option.isSome_iff_exists.mp ((Table.mem_ids_iff_find ..).mp stored)
    simp only [ListingController.handle,Ruby.toI_toString,found]
    apply k.renderListings_whole whole
    intro other member
    rw [List.mem_singleton.mp member]
    exact (Table.find?_eq_some.mp found).1

/-- All pages but two kinds are there. -/
theorem follow_works (plan : Plan) {path : Path} (present : path.Present db session) (search : path ≠ .homeSearchProperties)
    (profile : ∀ id, path ≠ .usersProfile id) : ¬ (serve env db session (path.action plan)).2.2.Fails := by
  cases path with
  | homeSearchProperties => exact absurd rfl search
  | usersProfile id => exact absurd rfl (profile id)
  | homeAddToCart =>
    simp only [Path.action,serve,HomeController.handle,HomeController.addToCart]
    cases currentUser db session <;> simp [Response.Fails]
  | homeAddToFavourites =>
    obtain ⟨again,page,_⟩ := serve_addToFavourites env plan db session
    simp [Path.action,page,Response.Fails]
  | newUserRegistration => exact usersScope.new_whole db session
  | newUserSession => exact usersScope.new_whole db session
  | newAdministratorRegistration => exact administratorsScope.new_whole db session
  | newAdministratorSession => exact administratorsScope.new_whole db session
  | usersDashboardIndex =>
    have signedIn : (currentUser db session).isSome = true := present
    simp [Path.action,serve,UsersDashboard.handle,signedIn,Response.Fails]
  | usersUserProperties => exact ListingKind.userProperties.index_whole whole _
  | usersUserProperty id => exact ListingKind.userProperties.show_whole whole present
  | usersUserLookingForProperties => exact ListingKind.userLookingForProperties.index_whole whole _
  | usersUserLookingForProperty id => exact ListingKind.userLookingForProperties.show_whole whole present
  | administratorsCatalogRow c id =>
    obtain ⟨row,found⟩ := Option.isSome_iff_exists.mp (Table.mem_ids_iff_find.mp present)
    have model : c.controller.model = c := by cases c <;> rfl
    simp only [Path.action,serve,CatalogController.handle,model,Ruby.toI_toString,found]
    simp [Response.Fails]
  | _ => simp [Path.action,serve,HomeController.handle,CatalogController.handle,Named.index,Response.Fails]

end Follow

theorem profile_fails_iff (env : Env) {db : Db} {session : Session} {id : Int} (stored : id ∈ db.profiles.ids) :
    (serve env db session (.profiles (.show (toString id)))).2.2.Fails ↔
      ∀ user, currentUser db session = some user → Profile.ofUser db.profiles user = none := by
  obtain ⟨row,found⟩ := Option.isSome_iff_exists.mp (Table.mem_ids_iff_find.mp stored)
  simp only [serve,ProfilesController.handle,ProfilesController.show,Ruby.toI_toString,found]
  cases current : currentUser db session with
  | none => simp [Response.Fails]
  | some user => cases own : Profile.ofUser db.profiles user <;> simp [Response.Fails,own]

def deniedAtLogin : List Request :=
  [⟨0,.users (.signUp ⟨"a@x"⟩ true)⟩,⟨0,.users .signOut⟩,⟨0,.home .addToCart⟩]

end HyderabadHomes
