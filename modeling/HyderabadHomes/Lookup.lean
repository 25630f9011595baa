import HyderabadHomes.Footprints
import HyderabadHomes.ListingForm
import HyderabadHomes.LoginSearch
import HyderabadHomes.Routes

/-! What is saved can be found again: at the URL that the browser is sent to, and by the
searches of anybody, for as long as nobody changes or deletes it. -/
namespace HyderabadHomes
open Relational Routing Transition

namespace ListingRequest
variable {α : Type}

def Spares (m : ListingModel α) (env : Env) (currentUser : Int) (row : Row α) : ListingRequest α → Prop
  | .update id attrs answer => Ruby.toI id = row.id → ∀ val ∈ m.updated env currentUser row.val attrs answer, val = row.val
  | .destroy id => Ruby.toI id ≠ row.id
  | _ => True

theorem spares_iff {m : ListingModel α} {env : Env} {currentUser : Int} {t : Table α} {row : Row α} (member : row ∈ t.rows)
    (request : ListingRequest α) :
    row ∈ (request.apply m env currentUser t).rows ↔ request.Spares m env currentUser row := by
  cases request with
  | create attrs addr answer =>
    simp only [apply,Spares,iff_true]
    cases m.created env currentUser attrs addr answer with
    | none => exact member
    | some stored => exact Table.mem_insert.mpr (.inl member)
  | update id attrs answer => exact Table.mem_rewrite_iff member _ _
  | destroy id =>
    simp only [apply,Spares,Table.mem_delete,member,true_and]
    exact ne_comm
  | _ => exact ⟨fun _ => trivial,fun _ => member⟩

end ListingRequest

namespace UserLookingForProperty

/-- Nobody who may do so changes or deletes the listing, and its owner stays. -/
def Spares (env : Env) (row : Row UserLookingForProperty) (app : App) (request : Request) : Prop :=
  match request.action with
  | .userLookingForProperties own =>
    ∀ user ∈ currentUser app.db (app.sessions request.browser), own.Spares model env user row
  | .users .destroy => ∀ user ∈ currentUser app.db (app.sessions request.browser), row.val.userId ≠ some user
  | _ => True

theorem table_of_unwritten {env : Env} {db : Db} {session : Session} {action : Action}
    (unwritten : TableName.userLookingForProperties ∉ action.writes) :
    (action.apply env db session).userLookingForProperties = db.userLookingForProperties := by
  rw [← serve_db]
  exact (serve_footprint env session action).frame db .userLookingForProperties unwritten

theorem spares_iff (env : Env) (row : Row UserLookingForProperty) (app : App) (request : Request)
    (member : row ∈ app.db.userLookingForProperties.rows) :
    row ∈ (App.next env app request).db.userLookingForProperties.rows ↔ Spares env row app request := by
  obtain ⟨browser,action⟩ := request
  rw [App.next_db]
  have untouched (unwritten : TableName.userLookingForProperties ∉ action.writes) :
      row ∈ (action.apply env app.db (app.sessions browser)).userLookingForProperties.rows ↔ True := by
    rw [table_of_unwritten unwritten]
    exact ⟨fun _ => trivial,fun _ => member⟩
  cases action with
  | userLookingForProperties own =>
    simp only [Action.apply,Spares]
    cases currentUser app.db (app.sessions browser) with
    | none => simp [member]
    | some user => simpa using own.spares_iff member
  | home own =>
    cases own with
    | createProperties property answer =>
      simp only [Action.apply,Spares,iff_true]
      rcases HomeController.createProperties_effect (currentUser app.db (app.sessions browser)) property answer
        app.db.userLookingForProperties with same | ⟨_,added,_,same,_⟩
      · rw [same]
        exact member
      · rw [same]
        exact Table.mem_insertAll_of_mem added member
    | _ => exact untouched (by simp [Action.writes,HomeRequest.writes])
  | users own =>
    cases own with
    | destroy =>
      simp only [Action.apply,Spares,Scope.handle]
      change _ ↔ ∀ user ∈ usersScope.current app.db (app.sessions browser), row.val.userId ≠ some user
      cases usersScope.current app.db (app.sessions browser) with
      | none => simp [member]
      | some user =>
        simp only [Option.mem_some,forall_eq']
        change row ∈ (app.db.userLookingForProperties.keep _).rows ↔ _
        simp [Table.mem_keep,member]
    | _ => exact untouched (by simp [Action.writes,AccountRequest.writes])
  | userProperties own => exact untouched (by cases own <;> simp [Action.writes,ListingRequest.writes])
  | profiles own => exact untouched (by cases own <;> simp [Action.writes,ProfileRequest.writes])
  | usersDashboard own => exact untouched (by cases own <;> simp [Action.writes,DashboardRequest.writes])
  | catalogs c own =>
    refine untouched ?_
    cases c <;> cases own <;>
      simp [Action.writes,CatalogRequest.writes,Catalog.controller,CatalogController.target,propertiesController,
        ownershipTypesController,lookingForsController,Catalog.tableName]
  | administratorsDashboard => exact untouched (by simp [Action.writes])
  | administratorsDashboardMissing _ => exact untouched (by simp [Action.writes])
  | administrators own => exact untouched (by cases own <;> simp [Action.writes,AccountRequest.writes])

end UserLookingForProperty

theorem plain_toString (id : Int) : Plain (toString id) := by
  constructor
  · intro empty
    have blank := Ruby.blank_toString id
    rw [empty] at blank
    cases blank
  · intro c member
    rcases Ruby.mem_toString member with digit | rfl
    · constructor <;> (rintro rfl; cases digit)
    · decide

theorem toString_ne_new (id : Int) : toString id ≠ "new" := by
  intro same
  have member : 'n' ∈ (toString id).toList := by
    rw [same]
    decide
  rcases Ruby.mem_toString member with digit | sign
  · cases digit
  · cases sign

def Path.parts : Path → List String
  | .root => []
  | .homeSearchProperties => ["home","search_properties"]
  | .homeAddToCart => ["home","add_to_cart"]
  | .homeAddToFavourites => ["home","add_to_favourites"]
  | .newUserRegistration => ["users","sign_up"]
  | .newUserSession => ["users","sign_in"]
  | .newAdministratorRegistration => ["administrators","sign_up"]
  | .newAdministratorSession => ["administrators","sign_in"]
  | .usersDashboardIndex => ["users","dashboard"]
  | .usersProfile id => ["users","profiles",toString id]
  | .usersUserProperties => ["users","user_properties"]
  | .usersUserProperty id => ["users","user_properties",toString id]
  | .usersUserLookingForProperties => ["users","user_looking_for_properties"]
  | .usersUserLookingForProperty id => ["users","user_looking_for_properties",toString id]
  | .administratorsDashboardIndex => ["administrators","dashboard"]
  | .administratorsCatalog c => ["administrators",c.controllerName]
  | .administratorsCatalogRow c id => ["administrators",c.controllerName,toString id]

/-- The `show` route of a controller reads the URL of any row. -/
theorem recognize_row {space name : String} (id : Int)
    (route : (⟨.get,[.literal space,.literal name,.dynamic "id"],⟨space,name,"show"⟩⟩ : Route Endpoint) ∈ routes)
    (ordinary : reservedIds ⟨space,name,"show"⟩ = ["new"]) :
    recognize routes .get (parse (url [space,name,toString id])).1 = some (⟨space,name,"show"⟩,[("id",toString id)]) := by
  have written : write [.literal space,.literal name,.dynamic "id"] [("id",toString id)] = some [space,name,toString id] := by
    simp [write]
  have plain : ∀ p ∈ [("id",toString id)], Plain p.2 := by simpa using plain_toString id
  rw [parse_url (write_plain written (routes_writable _ route) plain)]
  refine (routes_reserve.recognize_iff route written plain).mpr ?_
  rw [ordinary]
  simpa using toString_ne_new id

/-- The GET with which a redirect is followed is answered by the action that the path
stands for. -/
theorem Path.action_answers (plan : Plan) (path : Path) : (path.action plan).Answers .get (url path.parts) := by
  cases path with
  | usersProfile id => exact ⟨_,List.mem_singleton.mpr rfl,recognize_row id (by decide +kernel) rfl⟩
  | usersUserProperty id => exact ⟨_,List.mem_singleton.mpr rfl,recognize_row id (by decide +kernel) rfl⟩
  | usersUserLookingForProperty id => exact ⟨_,List.mem_singleton.mpr rfl,recognize_row id (by decide +kernel) rfl⟩
  | administratorsCatalogRow c id =>
    cases c <;> exact ⟨_,List.mem_singleton.mpr rfl,recognize_row id (by decide +kernel) rfl⟩
  | administratorsCatalog c => cases c <;> exact ⟨_,List.mem_singleton.mpr rfl,by decide +kernel⟩
  | newUserRegistration => exact ⟨_,.tail _ (.tail _ (.head _)),by decide +kernel⟩
  | newUserSession => exact ⟨_,.head _,by decide +kernel⟩
  | newAdministratorRegistration => exact ⟨_,.tail _ (.tail _ (.head _)),by decide +kernel⟩
  | newAdministratorSession => exact ⟨_,.head _,by decide +kernel⟩
  | administratorsDashboardIndex => exact ⟨_,.head _,by decide +kernel⟩
  | homeSearchProperties =>
    have home : recognize routes .get (parse (url ["home","search_properties"])).1 =
        some (⟨"","home","search_properties"⟩,[]) := by decide +kernel
    exact ⟨_,List.mem_singleton.mpr rfl,home⟩
  | homeAddToFavourites =>
    have home : recognize routes .get (parse (url ["home","add_to_favourites"])).1 =
        some (⟨"","home","add_to_favourites"⟩,[]) := by decide +kernel
    exact ⟨_,List.mem_singleton.mpr rfl,home⟩
  | _ => exact ⟨_,List.mem_singleton.mpr rfl,by decide +kernel⟩

def Criteria.Reads (criteria : Criteria) : Prop :=
  ∃ p k, (Literal.ofText criteria.propertyId).asInteger = .ok p ∧ (Literal.ofText criteria.kindId).asInteger = .ok k

namespace UserLookingForProperty

theorem answers_show {id : Int} {action : Action}
    (answers : action.Answers .get (url (Path.usersUserLookingForProperty id).parts)) :
    action = .userLookingForProperties (.show (toString id)) := by
  obtain ⟨target,member,recognized⟩ := answers
  have row : recognize routes .get (parse (url ["users","user_looking_for_properties",toString id])).1 =
      some (⟨"users","user_looking_for_properties","show"⟩,[("id",toString id)]) := recognize_row id (by decide +kernel) rfl
  rw [Path.parts,row] at recognized
  cases recognized
  cases action with
  | userLookingForProperties request =>
    have same := List.mem_singleton.mp member
    cases request with
    | «show» text =>
      simp only [Prod.mk.injEq,List.cons.injEq,and_true,true_and] at same
      rw [same]
    | _ => simp at same
  | users request =>
    obtain ⟨own,_,same⟩ := List.mem_map.mp member
    cases (Prod.mk.inj same).2
  | administrators request =>
    obtain ⟨own,_,same⟩ := List.mem_map.mp member
    cases (Prod.mk.inj same).2
  | _ => simp [Action.targets] at member

/-- What a creation enters, cast to the columns, with the position that the services answer. -/
def entered (env : Env) (owner : Option Int) (attrs : Attrs) (addr : Option String) (latitude longitude : Option Double) :
    UserLookingForProperty where
  userId := owner
  location := addr
  propertyId := ListingModel.submittedId "property_id" attrs none
  lookingForId := ListingModel.submittedId "looking_for_id" attrs none
  latitude := latitude
  longitude := longitude
  price := ((submitted "price" attrs).map (castFloat env)).getD none

theorem created_entered {env : Env} {user : Int} {attrs : Attrs} {addr : Option String} {answer : Geocoding}
    {record val : UserLookingForProperty} (assigned : model.new env attrs = .ok record)
    (stored : model.save answer (model.setLocation addr (model.setUserId user record)) = .stored val) :
    ∃ latitude longitude, answer = .accepted latitude longitude ∧
      val = entered env (some user) attrs addr latitude longitude ∧ addr.isSome := by
  have property : record.propertyId = ListingModel.submittedId "property_id" attrs none :=
    assign_field (model.writes_propertyId env) assigned
  have kind : record.lookingForId = ListingModel.submittedId "looking_for_id" attrs none :=
    assign_field (model.writes_kindId env) assigned
  have price : record.price = ((submitted "price" attrs).map (castFloat env)).getD none :=
    assign_field (userLookingForPropertyForm.writes_price _ rfl env) assigned
  obtain ⟨latitude,longitude,reply,accepted,_,rfl⟩ := saveGeocoded_stored stored
  have placed : addr.isSome := by
    simp only [model,valid,Bool.and_eq_true] at accepted
    exact Option.isSome_of_any accepted.1.1.2
  refine ⟨latitude,longitude,reply,?_,placed⟩
  simp only [entered,← property,← kind,← price]
  rfl

/-- A creation that redirects to a row has inserted that row, with what was entered. -/
theorem created_row {env : Env} {app : App} {browser : Nat} {attrs : Attrs} {addr : Option String} {answer : Geocoding}
    {id : Int} {notice : Option String}
    (saved : (app.step env ⟨browser,.userLookingForProperties (.create attrs addr answer)⟩).2 =
      .redirect (.usersUserLookingForProperty id) notice) :
    ∃ latitude longitude, answer = .accepted latitude longitude ∧
      ⟨id,entered env (currentUser app.db (app.sessions browser)) attrs addr latitude longitude⟩ ∈
        (app.step env ⟨browser,.userLookingForProperties (.create attrs addr answer)⟩).1.db.userLookingForProperties.rows ∧
      addr.isSome := by
  rw [App.step_response,serve] at saved
  rw [App.step_db,serve]
  unfold authenticateUser at saved ⊢
  cases current : currentUser app.db (app.sessions browser) with
  | none =>
    rw [current] at saved
    cases saved
  | some user =>
    rw [current] at saved
    simp only [ListingController.handle,userLookingForPropertiesController,ListingModel.create] at saved ⊢
    cases assigned : model.new env attrs with
    | error e =>
      simp only [assigned] at saved
      cases saved
    | ok record =>
      simp only [assigned] at saved ⊢
      cases stored : model.save answer (model.setLocation addr (model.setUserId user record)) with
      | rejected =>
        simp only [stored] at saved
        cases saved
      | raised e =>
        simp only [stored] at saved
        cases saved
      | stored val =>
        simp only [stored] at saved ⊢
        cases saved
        obtain ⟨latitude,longitude,reply,rfl,placed⟩ := created_entered assigned stored
        exact ⟨latitude,longitude,reply,Table.mem_insert.mpr (.inr rfl),placed⟩

section Stored
variable {db : Db} {row : Row UserLookingForProperty} (member : row ∈ db.userLookingForProperties.rows)
  (property : Refers row.val.propertyId db.properties) (kind : Refers row.val.lookingForId db.lookingFors)
include member property kind

theorem show_of_stored (env : Env) {session : Session} (signedIn : (currentUser db session).isSome) :
    ∃ names, (serve env db session (.userLookingForProperties (.show (toString row.id)))).2.2 =
      .render (.userLookingForProperties [(row,names)]) := by
  obtain ⟨user,current⟩ := Option.isSome_iff_exists.mp signedIn
  have found : db.userLookingForProperties.find? (Ruby.toI (toString row.id)) = some row := by
    rw [Ruby.toI_toString]
    exact Table.find?_eq_some.mpr ⟨member,rfl⟩
  obtain ⟨names,read⟩ := dereference_ok property kind
  refine ⟨names,?_⟩
  simp only [serve,authenticateUser,current,ListingController.handle,userLookingForPropertiesController,found,
    ListingController.renderListings]
  have page : renderRows db.properties (db.catalog .lookingFors) model.propertyId model.kindId [row] = .ok [(row,names)] := by
    simp only [renderRows]
    rw [show dereference db.properties (db.catalog .lookingFors) (model.propertyId row.val) (model.kindId row.val) =
      .ok names from read]
  rw [page]

theorem search_of_stored (env : Env) (session : Session) (plan : Plan) {criteria : Criteria} (reads : criteria.Reads)
    (placed : row.val.location.isSome) :
    ∃ shown, (serve env db session (.home (.searchProperties plan (some criteria) row.val.location))).2.2 =
      .render (.searchResults shown) ∧ model.keyOf row.val ∈ keysOf shown := by
  obtain ⟨place,located⟩ := Option.isSome_iff_exists.mp placed
  obtain ⟨p,k,first,second⟩ := reads
  have ok : ∃ rows, search plan db (.ofText criteria.propertyId) (.ofText criteria.kindId) (.ofText row.val.location) =
      .ok rows := by
    have third : (Literal.ofText row.val.location).asText = .ok (some place) := by
      rw [located]
      rfl
    simp only [search,first,second,third]
    exact ⟨_,rfl⟩
  obtain ⟨rows,answer⟩ := ok
  obtain ⟨shown,reply,same,_⟩ := serve_search env answer session
  refine ⟨shown,by rw [reply],?_⟩
  obtain ⟨property,inside,propertyId⟩ := property
  obtain ⟨kind,present,kindId⟩ := kind
  have key : model.keyOf row.val ∈ rows.map Row.val :=
    (search_keys answer _).mpr ⟨⟨row,property,kind⟩,⟨member,inside,present,propertyId,kindId⟩,
      .inr (.inr ⟨place,by rw [located]; rfl,located⟩),rfl⟩
  rw [← same,List.map_map] at key
  exact key

end Stored

end UserLookingForProperty

/-- A criterion that PostgreSQL does not read fails the whole search. -/
theorem search_of_unread (env : Env) (db : Db) (session : Session) (plan : Plan) {criteria : Criteria}
    (addr : Option String) (unread : ¬ criteria.Reads) :
    (serve env db session (.home (.searchProperties plan (some criteria) addr))).2.2 = .error .statementInvalid := by
  have failed : UserLookingForProperty.search plan db (.ofText criteria.propertyId) (.ofText criteria.kindId) (.ofText addr) =
      .error .statementInvalid := by
    unfold UserLookingForProperty.search
    split
    · rename_i p k l first second third
      exact absurd ⟨p,k,first,second⟩ unread
    · rfl
  simp only [serve,HomeController.handle,HomeController.searchProperties,failed]

def withCatalogs : App :=
  ⟨{Db.empty with
      users := Db.empty.users.insert ⟨"a@x"⟩
      properties := Db.empty.properties.insert ⟨some "Flat"⟩
      lookingFors := Db.empty.lookingFors.insert ⟨some "Rent"⟩},
    fun _ => {Session.empty with user := some 1}⟩

def wantedFlat : Request :=
  ⟨0,.userLookingForProperties (.create
    [("property_id",some "1"),("looking_for_id",some "1"),("price",some "2500")] (some "Hyderabad") (.accepted none none))⟩

def newCatalogRow : Request := ⟨1,.catalogs .properties (.create [("name",some "Villa")])⟩

/-- `"2500".to_f`, for the one price that is entered here. -/
def priced : Env := {Env.production with toF := fun _ => ⟨0x40A3880000000000⟩}

end HyderabadHomes
