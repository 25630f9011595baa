import HyderabadHomes.Catalog
import HyderabadHomes.Dashboard
import HyderabadHomes.Home

/-! All routed requests, for pages in HTML, and the application as a state machine over the database
and the sessions of any number of browsers. -/
namespace HyderabadHomes
open Relational

inductive ListingRequest (α : Type)
  | index (onPage : Row α → Bool)
  | new
  | create (attrs : Attrs) (addr : Option String) (answer : Geocoding)
  | show (id : String)
  | edit (id : String)
  | update (id : String) (attrs : Attrs) (answer : Geocoding)
  | destroy (id : String)
  | search (plan : Plan) (search : Option Criteria) (addr : Option String)

def ListingRequest.apply {α : Type} (m : ListingModel α) (env : Env) (currentUser : Int) (t : Table α) :
    ListingRequest α → Table α
  | .create attrs addr answer => ((m.created env currentUser attrs addr answer).map t.insert).getD t
  | .update id attrs answer => t.rewrite (Ruby.toI id) fun row => m.updated env currentUser row.val attrs answer
  | .destroy id => t.delete (Ruby.toI id)
  | _ => t

structure ListingController (α : Type) where
  model : ListingModel α
  kinds : Catalog
  table : Db → Table α
  setTable : Table α → Db → Db
  index : Path
  row : Int → Path
  page : List (Row α × Row Named × Row Named) → Page
  searchProperties : Plan → Db → Literal → Literal → Literal → Except Error (List (Row ListingKey))
  setTable_table : ∀ db, setTable (table db) db = db

def userPropertiesController : ListingController UserProperty where
  model := UserProperty.model
  kinds := .ownershipTypes
  table := Db.userProperties
  setTable t db := {db with userProperties := t}
  index := .usersUserProperties
  row := .usersUserProperty
  page := .userProperties
  searchProperties := UserProperty.searchProperties
  setTable_table _ := rfl

def userLookingForPropertiesController : ListingController UserLookingForProperty where
  model := UserLookingForProperty.model
  kinds := .lookingFors
  table := Db.userLookingForProperties
  setTable t db := {db with userLookingForProperties := t}
  index := .usersUserLookingForProperties
  row := .usersUserLookingForProperty
  page := .userLookingForProperties
  searchProperties := UserLookingForProperty.searchProperties
  setTable_table _ := rfl

namespace ListingController
variable {α : Type} (k : ListingController α)

def renderListings (db : Db) (rows : List (Row α)) : Response :=
  match renderRows db.properties (db.catalog k.kinds) k.model.propertyId k.model.kindId rows with
  | .error e => .error e
  | .ok shown => .render (k.page shown)

def renderSearch (db : Db) (rows : List (Row ListingKey)) : Response :=
  match renderRows db.properties (db.catalog k.kinds) ListingKey.propertyId ListingKey.kindId rows with
  | .error e => .error e
  | .ok shown => .render (.searchResults shown)

def handle (env : Env) (db : Db) (currentUser : Int) : ListingRequest α → Db × Response
  -- newest first; `onPage` is what the distance filter and the page leave
  | .index onPage =>
    (db,k.renderListings db
      ((k.table db).rows.filter fun row => k.model.userId row.val == some currentUser && onPage row).reverse)
  | .new => (db,.render (.template .new))
  | .create attrs addr answer =>
    let (t,response) := k.model.create k.row env currentUser attrs addr answer (k.table db)
    (k.setTable t db,response)
  | .show id =>
    match (k.table db).find? (Ruby.toI id) with
    | none => (db,.error .recordNotFound)
    | some row => (db,k.renderListings db [row])
  | .edit id =>
    match (k.table db).find? (Ruby.toI id) with
    | none => (db,.error .recordNotFound)
    | some _ => (db,.render (.template .edit))
  | .update id attrs answer =>
    let (t,response) := k.model.update k.row env currentUser id attrs answer (k.table db)
    (k.setTable t db,response)
  | .destroy id =>
    let (t,response) := ListingModel.destroy k.index id (k.table db)
    (k.setTable t db,response)
  | .search plan search addr =>
    match search with
    | none => (db,.error .noMethod)
    | some criteria =>
      match k.searchProperties plan db (.ofText addr) (.ofText criteria.propertyId) (.ofText criteria.kindId) with
      | .error e => (db,.error e)
      | .ok rows => (db,k.renderSearch db rows)

theorem handle_db (env : Env) (db : Db) (currentUser : Int) (request : ListingRequest α) :
    (k.handle env db currentUser request).1 = k.setTable (request.apply k.model env currentUser (k.table db)) db := by
  cases request with
  | index onPage => exact (k.setTable_table db).symm
  | new => exact (k.setTable_table db).symm
  | create attrs addr answer => simp only [handle,ListingRequest.apply,ListingModel.create_table]
  | «show» id =>
    simp only [handle,ListingRequest.apply,k.setTable_table]
    cases (k.table db).find? (Ruby.toI id) <;> rfl
  | edit id =>
    simp only [handle,ListingRequest.apply,k.setTable_table]
    cases (k.table db).find? (Ruby.toI id) <;> rfl
  | update id attrs answer => simp only [handle,ListingRequest.apply,ListingModel.update_table]
  | destroy id => simp only [handle,ListingRequest.apply,ListingModel.destroy_table]
  | search plan search addr =>
    simp only [handle,ListingRequest.apply,k.setTable_table]
    cases search with
    | none => rfl
    | some criteria =>
      simp only
      cases k.searchProperties plan db (.ofText addr) (.ofText criteria.propertyId) (.ofText criteria.kindId) <;> rfl

end ListingController

inductive HomeRequest
  | index
  | aboutUs
  | contactUs
  | searchProperties (plan : Plan) (search : Option Criteria) (addr : Option String)
  | addToCart
  | addToFavourites (plan : Plan)
  | createProperties (property : Option (List (Option String))) (answer : Row UserLookingForProperty → Geocoding)

namespace HomeController

def handle (db : Db) (session : Session) : HomeRequest → Db × Session × Response
  | .index => (db,session,.render (.template .fixed))
  | .aboutUs => (db,session,.render (.template .fixed))
  | .contactUs => (db,session,.render (.template .fixed))
  | .searchProperties plan search addr => (db,searchProperties plan db search addr session)
  | .addToCart => (db,addToCart (currentUser db session) session)
  | .addToFavourites plan => (db,addToFavourites plan db session)
  | .createProperties property answer =>
    let (t,response) := createProperties (currentUser db session) property answer db.userLookingForProperties
    ({db with userLookingForProperties := t},session,response)

end HomeController

inductive ProfileRequest
  | index
  | new
  | create (attrs : Attrs) (addr : Option String) (answer : Geocoding)
  | show (id : String)
  | edit (id : String)
  | update (id : String) (attrs : Attrs) (addr dob : Option String) (answer : Geocoding)
  | destroy (id : String)

def ProfileRequest.apply (env : Env) (currentUser : Option Int) (t : Table Profile) : ProfileRequest → Table Profile
  | .create attrs addr answer =>
    match currentUser with
    | none => t
    | some user => (ProfilesController.create env user attrs addr answer t).1
  | .update id attrs addr dob answer =>
    t.rewrite (Ruby.toI id) fun row => Profile.updated env row.val attrs addr dob answer
  | _ => t

namespace ProfilesController

/-- No filter: an anonymous request reaches every action, and `new` and `create`
then ask nil for a profile. -/
def handle (env : Env) (db : Db) (currentUser : Option Int) : ProfileRequest → Db × Response
  | .index => (db,.render (.template .fixed))
  | .new =>
    match currentUser with
    | none => (db,.error .noMethod)
    | some user => (db,new user db.profiles)
  | .create attrs addr answer =>
    match currentUser with
    | none => (db,.error .noMethod)
    | some user =>
      let (t,response) := create env user attrs addr answer db.profiles
      ({db with profiles := t},response)
  | .show id => (db,«show» currentUser id db.profiles)
  | .edit id => (db,edit id db.profiles)
  | .update id attrs addr dob answer =>
    let (t,response) := update env id attrs addr dob answer db.profiles
    ({db with profiles := t},response)
  -- an empty action without a template
  | .destroy _ => (db,.error .missingTemplate)

theorem handle_db (env : Env) (db : Db) (currentUser : Option Int) (request : ProfileRequest) :
    (handle env db currentUser request).1 = {db with profiles := request.apply env currentUser db.profiles} := by
  cases request with
  | new => cases currentUser <;> rfl
  | create attrs addr answer => cases currentUser <;> rfl
  | update id attrs addr dob answer => simp only [handle,ProfileRequest.apply,update_table]
  | _ => rfl

end ProfilesController

inductive Action
  | home (request : HomeRequest)
  | userProperties (request : ListingRequest UserProperty)
  | userLookingForProperties (request : ListingRequest UserLookingForProperty)
  | profiles (request : ProfileRequest)
  | usersDashboard (request : DashboardRequest)
  | catalogs (c : Catalog) (request : CatalogRequest)
  | administratorsDashboard
  | administratorsDashboardMissing (action : MissingAction)
  | users (request : AccountRequest User)
  | administrators (request : AccountRequest Administrator)

def authenticateUser (db : Db) (session : Session) (act : Int → Db × Response) : Db × Response :=
  match currentUser db session with
  | none => (db,.redirect .newUserSession none)
  | some user => act user

def serve (env : Env) (db : Db) (session : Session) : Action → Db × Session × Response
  | .home request => HomeController.handle db session request
  | .userProperties request =>
    let (db',response) := authenticateUser db session fun user => userPropertiesController.handle env db user request
    (db',session,response)
  | .userLookingForProperties request =>
    let (db',response) := authenticateUser db session fun user =>
      userLookingForPropertiesController.handle env db user request
    (db',session,response)
  | .profiles request =>
    let (db',response) := ProfilesController.handle env db (currentUser db session) request
    (db',session,response)
  | .usersDashboard request =>
    let (db',response) := UsersDashboard.handle db (currentUser db session) request
    (db',session,response)
  | .catalogs c request =>
    let (db',response) := c.controller.handle env db request
    (db',session,response)
  | .administratorsDashboard => (db,session,.render (.template .fixed))
  | .administratorsDashboardMissing _ => (db,session,.error .actionNotFound)
  | .users request => usersScope.handle db session request
  | .administrators request => administratorsScope.handle db session request

def Action.apply (env : Env) (db : Db) (session : Session) : Action → Db
  | .home (.createProperties property answer) =>
    {db with userLookingForProperties :=
      (HomeController.createProperties (currentUser db session) property answer db.userLookingForProperties).1}
  | .home _ => db
  | .userProperties request =>
    match currentUser db session with
    | none => db
    | some user => {db with userProperties := request.apply UserProperty.model env user db.userProperties}
  | .userLookingForProperties request =>
    match currentUser db session with
    | none => db
    | some user =>
      {db with userLookingForProperties :=
        request.apply UserLookingForProperty.model env user db.userLookingForProperties}
  | .profiles request => {db with profiles := request.apply env (currentUser db session) db.profiles}
  | .usersDashboard request => (UsersDashboard.handle db (currentUser db session) request).1
  | .catalogs c request =>
    db.setCatalog (c.controller.target request) (request.apply env (db.catalog (c.controller.target request)))
  | .administratorsDashboard => db
  | .administratorsDashboardMissing _ => db
  | .users request => (usersScope.handle db session request).1
  | .administrators request => (administratorsScope.handle db session request).1

theorem serve_db (env : Env) (db : Db) (session : Session) (action : Action) :
    (serve env db session action).1 = action.apply env db session := by
  cases action with
  | home request => cases request <;> rfl
  | userProperties request =>
    simp only [serve,authenticateUser,Action.apply]
    cases currentUser db session with
    | none => rfl
    | some user => exact userPropertiesController.handle_db env db user request
  | userLookingForProperties request =>
    simp only [serve,authenticateUser,Action.apply]
    cases currentUser db session with
    | none => rfl
    | some user => exact userLookingForPropertiesController.handle_db env db user request
  | profiles request => exact ProfilesController.handle_db env db (currentUser db session) request
  | usersDashboard request => rfl
  | catalogs c request => exact c.controller.handle_db env db request
  | administratorsDashboard => rfl
  | administratorsDashboardMissing action => rfl
  | users request => rfl
  | administrators request => rfl

structure App where
  db : Db
  sessions : Nat → Session

structure Request where
  browser : Nat
  action : Action

def App.init (db : Db) : App := ⟨db,fun _ => Session.empty⟩

def App.step (env : Env) (app : App) (request : Request) : App × Response :=
  let (db,session,response) := serve env app.db (app.sessions request.browser) request.action
  (⟨db,fun browser => if browser = request.browser then session else app.sessions browser⟩,response)

def App.next (env : Env) (app : App) (request : Request) : App := (app.step env request).1

@[simp] theorem App.next_db (env : Env) (app : App) (request : Request) :
    (app.next env request).db = request.action.apply env app.db (app.sessions request.browser) :=
  serve_db env app.db (app.sessions request.browser) request.action

@[simp] theorem App.step_db (env : Env) (app : App) (browser : Nat) (action : Action) :
    (app.step env ⟨browser,action⟩).1.db = (serve env app.db (app.sessions browser) action).1 := rfl

@[simp] theorem App.step_session (env : Env) (app : App) (browser : Nat) (action : Action) :
    (app.step env ⟨browser,action⟩).1.sessions browser = (serve env app.db (app.sessions browser) action).2.1 := by
  simp [App.step]

@[simp] theorem App.step_response (env : Env) (app : App) (browser : Nat) (action : Action) :
    (app.step env ⟨browser,action⟩).2 = (serve env app.db (app.sessions browser) action).2.2 := rfl

end HyderabadHomes
