import HyderabadHomes.Tables
import HyderabadHomes.Transition.Footprint

/-! The tables that each request reads and writes, controller by controller. -/
namespace HyderabadHomes
open Relational Transition

namespace ListingRequest
variable {α : Type}

def dereferences : ListingRequest α → Bool
  | .index _ => true
  | .show _ => true
  | .search _ _ _ => true
  | _ => false

def reads (own : TableName) (kinds : Catalog) : ListingRequest α → List TableName
  | .new => []
  | request => own :: if request.dereferences then [.properties,kinds.tableName] else []

def writes (own : TableName) : ListingRequest α → List TableName
  | .create _ _ _ => [own]
  | .update _ _ _ => [own]
  | .destroy _ => [own]
  | _ => []

end ListingRequest

def HomeRequest.reads : HomeRequest → List TableName
  | .index => []
  | .aboutUs => []
  | .contactUs => []
  | .searchProperties _ _ _ => [.userLookingForProperties,.properties,.lookingFors]
  | .addToCart => [.users]
  | .addToFavourites _ => [.userLookingForProperties,.properties,.lookingFors]
  | .createProperties _ _ => [.users,.userLookingForProperties]

def HomeRequest.writes : HomeRequest → List TableName
  | .createProperties _ _ => [.userLookingForProperties]
  | _ => []

def ProfileRequest.reads : ProfileRequest → List TableName
  | .index => []
  | .new => [.users,.profiles]
  | .create _ _ _ => [.users,.profiles]
  | .show _ => [.users,.profiles]
  | .edit _ => [.profiles]
  | .update _ _ _ _ _ => [.profiles]
  | .destroy _ => []

def ProfileRequest.writes : ProfileRequest → List TableName
  | .create _ _ _ => [.profiles]
  | .update _ _ _ _ _ => [.profiles]
  | _ => []

def DashboardRequest.reads : DashboardRequest → List TableName
  | .index => [.users]
  | _ => []

def DashboardRequest.writes : DashboardRequest → List TableName
  | .createContacts _ => [.userContacts]
  | _ => []

def CatalogRequest.writes (target : TableName) : CatalogRequest → List TableName
  | .create _ => [target]
  | .update _ _ => [target]
  | .destroy _ => [target]
  | _ => []

def AccountRequest.writes {α : Type} (own : TableName) (dependents : List TableName) : AccountRequest α → List TableName
  | .signUp _ _ => [own]
  | .update _ _ => [own]
  | .destroy => own :: dependents
  | _ => []

namespace Action

def reads : Action → List TableName
  | .home request => request.reads
  | .userProperties request => .users :: request.reads .userProperties .ownershipTypes
  | .userLookingForProperties request => .users :: request.reads .userLookingForProperties .lookingFors
  | .profiles request => request.reads
  | .usersDashboard request => request.reads
  | .catalogs c request => [(c.controller.target request).tableName]
  | .administratorsDashboard => []
  | .administratorsDashboardMissing _ => []
  | .users _ => [.users]
  | .administrators _ => [.administrators]

def writes : Action → List TableName
  | .home request => request.writes
  | .userProperties request => request.writes .userProperties
  | .userLookingForProperties request => request.writes .userLookingForProperties
  | .profiles request => request.writes
  | .usersDashboard request => request.writes
  | .catalogs c request => request.writes (c.controller.target request).tableName
  | .administratorsDashboard => []
  | .administratorsDashboardMissing _ => []
  | .users request => request.writes .users [.profiles,.userProperties,.userLookingForProperties,.userContacts]
  | .administrators request => request.writes .administrators []

end Action

abbrev DbFootprint {O : Type} (step : Db → Db × O) (reads writes : List TableName) : Prop :=
  Footprint Db.table step {n | n ∈ reads} {n | n ∈ writes}

namespace DbFootprint
variable {O : Type} {step : Db → Db × O} {reads : List TableName}

theorem of_same (same : ∀ db, (step db).1 = db)
    (answer : ∀ db db', (∀ n ∈ reads, db.table n = db'.table n) → (step db).2 = (step db').2) :
    DbFootprint step reads [] where
  frame db n _ := by rw [same]
  answer := answer
  effect db db' _ n written _ := by cases written

theorem of_single {n : TableName} (frame : ∀ db m, m ≠ n → (step db).1.table m = db.table m)
    (answer : ∀ db db', (∀ n ∈ reads, db.table n = db'.table n) → (step db).2 = (step db').2)
    (effect : ∀ db db', (∀ n ∈ reads, db.table n = db'.table n) → db.table n = db'.table n →
      (step db).1.table n = (step db').1.table n) : DbFootprint step reads [n] where
  frame db m outside := frame db m fun same => outside (by simp [same])
  answer := answer
  effect db db' agree m inside same := by
    obtain rfl : m = n := List.mem_singleton.mp inside
    exact effect db db' agree same

end DbFootprint

theorem currentUser_of_users {db db' : Db} (users : db.users = db'.users) (session : Session) :
    currentUser db session = currentUser db' session := by
  simp only [currentUser,Scope.current,usersScope,users]

namespace ListingRequest
variable {α : Type} {request : ListingRequest α}

theorem reads_own (own : TableName) (kinds : Catalog) (request : ListingRequest α) :
    request = .new ∨ own ∈ request.reads own kinds := by
  cases request <;> simp [reads]

theorem reads_catalogs (own : TableName) (kinds : Catalog) (shown : request.dereferences = true) :
    .properties ∈ request.reads own kinds ∧ kinds.tableName ∈ request.reads own kinds := by
  cases request <;> simp_all [reads,dereferences]

theorem writes_cases (own : TableName) (request : ListingRequest α) :
    (request.writes own = [] ∧ ∀ m env user t, request.apply m env user t = t) ∨ request.writes own = [own] := by
  cases request <;> simp [writes,apply]

end ListingRequest

namespace ListingController
variable {α : Type} (k : ListingController α)

theorem handle_answer (env : Env) {db db' : Db} (currentUser : Int) (request : ListingRequest α)
    (own : request = .new ∨ k.table db = k.table db')
    (names : request.dereferences = true → db.properties = db'.properties ∧ db.catalog k.kinds = db'.catalog k.kinds ∧
      ∀ plan, k.searchProperties plan db = k.searchProperties plan db') :
    (k.handle env db currentUser request).2 = (k.handle env db' currentUser request).2 := by
  rcases own with rfl | own
  · rfl
  · cases request with
    | index onPage =>
      obtain ⟨properties,kinds,_⟩ := names rfl
      simp only [handle,renderListings,own,properties,kinds]
    | new => rfl
    | create attrs addr answer => simp only [handle,own]
    | «show» id =>
      obtain ⟨properties,kinds,_⟩ := names rfl
      simp only [handle,renderListings,own,properties,kinds]
      cases (k.table db').find? (Ruby.toI id) <;> rfl
    | edit id =>
      simp only [handle,own]
      cases (k.table db').find? (Ruby.toI id) <;> rfl
    | update id attrs answer => simp only [handle,own]
    | destroy id => simp only [handle,own]
    | search plan search addr =>
      obtain ⟨properties,kinds,found⟩ := names rfl
      simp only [handle,renderSearch,found plan,properties,kinds]
      cases search with
      | none => rfl
      | some criteria =>
        simp only
        cases k.searchProperties plan db' (.ofText addr) (.ofText criteria.propertyId) (.ofText criteria.kindId) <;> rfl

structure Keeps (own : TableName) : Prop where
  table : ∀ {db db' : Db}, db.table own = db'.table own → k.table db = k.table db'
  other : ∀ t (db : Db) m, m ≠ own → (k.setTable t db).table m = db.table m
  same : ∀ t (db db' : Db), (k.setTable t db).table own = (k.setTable t db').table own
  found : ∀ {db db' : Db}, db.table own = db'.table own → db.properties = db'.properties →
    db.catalog k.kinds = db'.catalog k.kinds → ∀ plan, k.searchProperties plan db = k.searchProperties plan db'

variable {k}

theorem Keeps.footprint {own : TableName} (keeps : k.Keeps own) (env : Env) (session : Session)
    (request : ListingRequest α) :
    DbFootprint (fun db => authenticateUser db session fun user => k.handle env db user request)
      (.users :: request.reads own k.kinds) (request.writes own) := by
  have answer : ∀ db db' : Db, (∀ n ∈ .users :: request.reads own k.kinds, db.table n = db'.table n) →
      (authenticateUser db session fun user => k.handle env db user request).2 =
        (authenticateUser db' session fun user => k.handle env db' user request).2 := by
    intro db db' agree
    have read : ∀ n ∈ request.reads own k.kinds, db.table n = db'.table n := fun n member => agree n (by simp [member])
    unfold authenticateUser
    rw [currentUser_of_users (agree .users (by simp)) session]
    cases currentUser db' session with
    | none => rfl
    | some user =>
      apply k.handle_answer env user request
      · exact (request.reads_own own k.kinds).imp id fun member => keeps.table (read own member)
      · intro shown
        obtain ⟨properties,kinds⟩ := ListingRequest.reads_catalogs own k.kinds shown
        have names : db.properties = db'.properties := read .properties properties
        have catalog : db.catalog k.kinds = db'.catalog k.kinds := by
          have same := read _ kinds
          cases here : k.kinds <;> rw [here] at same <;> exact same
        refine ⟨names,catalog,keeps.found (read own ?_) names catalog⟩
        rcases request.reads_own own k.kinds with rfl | member
        · cases shown
        · exact member
  have effect : ∀ (db : Db) user, (k.handle env db user request).1 =
      k.setTable (request.apply k.model env user (k.table db)) db := fun db user => k.handle_db env db user request
  rcases request.writes_cases own with ⟨none,idle⟩ | one
  · rw [none]
    refine .of_same (fun db => ?_) answer
    unfold authenticateUser
    cases currentUser db session with
    | none => rfl
    | some user => exact (effect db user).trans (by rw [idle,k.setTable_table])
  · rw [one]
    refine .of_single (fun db m other => ?_) answer fun db db' agree same => ?_
    · unfold authenticateUser
      cases currentUser db session with
      | none => rfl
      | some user => exact (congrArg (fun db => db.table m) (effect db user)).trans (keeps.other _ db m other)
    · unfold authenticateUser
      rw [currentUser_of_users (agree .users (by simp)) session]
      cases currentUser db' session with
      | none => exact same
      | some user =>
        simp only [effect,keeps.table same]
        exact keeps.same _ db db'

end ListingController

theorem userPropertiesController_keeps : userPropertiesController.Keeps .userProperties where
  table same := same
  other t db m apart := Db.table_setTable_of_ne db (n := .userProperties) t apart
  same t db db' := rfl
  found {db db'} own properties kinds plan := by
    have own : db.userProperties = db'.userProperties := own
    have kinds : db.ownershipTypes = db'.ownershipTypes := kinds
    funext location propType kindType
    simp only [userPropertiesController,UserProperty.searchProperties,own,properties,kinds]

theorem userLookingForPropertiesController_keeps : userLookingForPropertiesController.Keeps .userLookingForProperties where
  table same := same
  other t db m apart := Db.table_setTable_of_ne db (n := .userLookingForProperties) t apart
  same t db db' := rfl
  found {db db'} own properties kinds plan := by
    have own : db.userLookingForProperties = db'.userLookingForProperties := own
    have kinds : db.lookingFors = db'.lookingFors := kinds
    funext location propType kindType
    simp only [userLookingForPropertiesController,UserLookingForProperty.searchProperties,own,properties,kinds]

theorem UserLookingForProperty.search_congr {db db' : Db}
    (own : db.userLookingForProperties = db'.userLookingForProperties) (properties : db.properties = db'.properties)
    (kinds : db.lookingFors = db'.lookingFors) (plan : Plan) : search plan db = search plan db' := by
  funext propType lookingFor location
  simp only [search,own,properties,kinds]

theorem home_footprint (session : Session) (request : HomeRequest) :
    DbFootprint (fun db => HomeController.handle db session request) request.reads request.writes := by
  have rendered : ∀ {db db' : Db}, db.properties = db'.properties → db.lookingFors = db'.lookingFors →
      HomeController.renderSearch db session = HomeController.renderSearch db' session := by
    intro db db' properties kinds
    funext rows
    simp only [HomeController.renderSearch,properties,kinds]
  cases request with
  | searchProperties plan search addr =>
    refine .of_same (fun _ => rfl) fun db db' agree => ?_
    have properties : db.properties = db'.properties := agree .properties (by simp [HomeRequest.reads])
    have kinds : db.lookingFors = db'.lookingFors := agree .lookingFors (by simp [HomeRequest.reads])
    have own : db.userLookingForProperties = db'.userLookingForProperties :=
      agree .userLookingForProperties (by simp [HomeRequest.reads])
    simp only [HomeController.handle,HomeController.searchProperties,rendered properties kinds,
      UserLookingForProperty.search_congr own properties kinds]
  | addToFavourites plan =>
    refine .of_same (fun _ => rfl) fun db db' agree => ?_
    have properties : db.properties = db'.properties := agree .properties (by simp [HomeRequest.reads])
    have kinds : db.lookingFors = db'.lookingFors := agree .lookingFors (by simp [HomeRequest.reads])
    have own : db.userLookingForProperties = db'.userLookingForProperties :=
      agree .userLookingForProperties (by simp [HomeRequest.reads])
    simp only [HomeController.handle,HomeController.addToFavourites,rendered properties kinds,
      UserLookingForProperty.search_congr own properties kinds]
  | addToCart =>
    refine .of_same (fun _ => rfl) fun db db' agree => ?_
    simp only [HomeController.handle,currentUser_of_users (agree .users (by simp [HomeRequest.reads])) session]
  | createProperties property answer =>
    refine .of_single (fun db m apart => ?_) (fun db db' agree => ?_) fun db db' agree same => ?_
    · exact Db.table_setTable_of_ne db (n := .userLookingForProperties) _ apart
    · have own : db.userLookingForProperties = db'.userLookingForProperties :=
        agree .userLookingForProperties (by simp [HomeRequest.reads])
      simp only [HomeController.handle,own,currentUser_of_users (agree .users (by simp [HomeRequest.reads])) session]
    · have own : db.userLookingForProperties = db'.userLookingForProperties := same
      simp only [HomeController.handle,own,currentUser_of_users (agree .users (by simp [HomeRequest.reads])) session]
      rfl
  | _ => exact .of_same (fun _ => rfl) fun _ _ _ => rfl

theorem profiles_footprint (env : Env) (session : Session) (request : ProfileRequest) :
    DbFootprint (fun db => ProfilesController.handle env db (currentUser db session) request) request.reads
      request.writes := by
  cases request with
  | new =>
    refine .of_same (fun db => ?_) fun db db' agree => ?_
    · simp only [ProfilesController.handle]
      cases currentUser db session <;> rfl
    · have own : db.profiles = db'.profiles := agree .profiles (by simp [ProfileRequest.reads])
      simp only [ProfilesController.handle,own,currentUser_of_users (agree .users (by simp [ProfileRequest.reads])) session]
      cases currentUser db' session <;> rfl
  | create attrs addr answer =>
    refine .of_single (fun db m apart => ?_) (fun db db' agree => ?_) fun db db' agree same => ?_
    · simp only [ProfilesController.handle]
      cases currentUser db session with
      | none => rfl
      | some user => exact Db.table_setTable_of_ne db (n := .profiles) _ apart
    · have own : db.profiles = db'.profiles := agree .profiles (by simp [ProfileRequest.reads])
      simp only [ProfilesController.handle,own,currentUser_of_users (agree .users (by simp [ProfileRequest.reads])) session]
      cases currentUser db' session <;> rfl
    · have own : db.profiles = db'.profiles := same
      simp only [ProfilesController.handle,own,currentUser_of_users (agree .users (by simp [ProfileRequest.reads])) session]
      cases currentUser db' session with
      | none => exact same
      | some user => rfl
  | «show» id =>
    refine .of_same (fun _ => rfl) fun db db' agree => ?_
    have own : db.profiles = db'.profiles := agree .profiles (by simp [ProfileRequest.reads])
    simp only [ProfilesController.handle,own,currentUser_of_users (agree .users (by simp [ProfileRequest.reads])) session]
  | edit id =>
    refine .of_same (fun _ => rfl) fun db db' agree => ?_
    have own : db.profiles = db'.profiles := agree .profiles (by simp [ProfileRequest.reads])
    simp only [ProfilesController.handle,own]
  | update id attrs addr dob answer =>
    refine .of_single (fun db m apart => ?_) (fun db db' agree => ?_) fun db db' agree same => ?_
    · exact Db.table_setTable_of_ne db (n := .profiles) _ apart
    · have own : db.profiles = db'.profiles := agree .profiles (by simp [ProfileRequest.reads])
      simp only [ProfilesController.handle,own]
    · have own : db.profiles = db'.profiles := same
      simp only [ProfilesController.handle,own]
      rfl
  | _ => exact .of_same (fun _ => rfl) fun _ _ _ => rfl

/-- Where the loop stops does not depend on the contacts stored before. -/
theorem UsersDashboard.saveContacts_error (email : List String) (t t' : Table UserContact) :
    (saveContacts email t).2 = (saveContacts email t').2 := by
  induction email generalizing t t' with
  | nil => rfl
  | cons value rest ih =>
    unfold saveContacts
    cases contactOf value with
    | error e => rfl
    | ok contact =>
      simp only
      split
      · exact ih _ _
      · rfl

theorem usersDashboard_footprint (session : Session) (request : DashboardRequest) :
    DbFootprint (fun db => UsersDashboard.handle db (currentUser db session) request) request.reads request.writes := by
  cases request with
  | index =>
    refine .of_same (fun _ => rfl) fun db db' agree => ?_
    simp only [UsersDashboard.handle,currentUser_of_users (agree .users (by simp [DashboardRequest.reads])) session]
  | createContacts email =>
    cases email with
    | none =>
      refine .of_single (fun _ _ _ => rfl) (fun _ _ _ => rfl) fun db db' _ same => same
    | some email =>
      refine .of_single (fun db m apart => ?_) (fun db db' _ => ?_) fun db db' _ same => ?_
      · exact Db.table_setTable_of_ne db (n := .userContacts) _ apart
      · exact congrArg Response.error (UsersDashboard.saveContacts_error email _ _)
      · have own : db.userContacts = db'.userContacts := same
        simp only [UsersDashboard.handle,own]
        rfl
  | _ => exact .of_same (fun _ => rfl) fun _ _ _ => rfl

theorem Db.catalog_congr {db db' : Db} {c : Catalog} (same : db.table c.tableName = db'.table c.tableName) :
    db.catalog c = db'.catalog c := by
  cases c <;> exact same

theorem Db.table_setCatalog_of_ne (db : Db) {c : Catalog} (t : Table Named) {m : TableName} (apart : m ≠ c.tableName) :
    (db.setCatalog c t).table m = db.table m := by
  cases c with
  | properties => exact Db.table_setTable_of_ne db (n := .properties) t apart
  | ownershipTypes => exact Db.table_setTable_of_ne db (n := .ownershipTypes) t apart
  | lookingFors => exact Db.table_setTable_of_ne db (n := .lookingFors) t apart

theorem Db.table_setCatalog_self (db db' : Db) (c : Catalog) (t : Table Named) :
    (db.setCatalog c t).table c.tableName = (db'.setCatalog c t).table c.tableName := by
  cases c <;> rfl

theorem catalogs_footprint (env : Env) (k : CatalogController) (request : CatalogRequest) :
    DbFootprint (fun db => k.handle env db request) [(k.target request).tableName]
      (request.writes (k.target request).tableName) := by
  have answer : ∀ db db' : Db, (∀ n ∈ [(k.target request).tableName], db.table n = db'.table n) →
      (k.handle env db request).2 = (k.handle env db' request).2 := by
    intro db db' agree
    have own : db.catalog (k.target request) = db'.catalog (k.target request) := Db.catalog_congr (agree _ (by simp))
    cases request with
    | index search offset limit => exact congrArg (Named.index env search offset limit) own
    | new => rfl
    | create attrs => exact congrArg (fun t => (Named.create env (.administratorsCatalogRow k.model) attrs t).2) own
    | «show» id =>
      have own : db.catalog k.model = db'.catalog k.model := own
      simp only [CatalogController.handle,own]
      cases (db'.catalog k.model).find? (Ruby.toI id) <;> rfl
    | edit id =>
      have own : db.catalog k.model = db'.catalog k.model := own
      simp only [CatalogController.handle,own]
      cases (db'.catalog k.model).find? (Ruby.toI id) <;> rfl
    | update id attrs => exact congrArg (fun t => (Named.update env (.administratorsCatalogRow k.found) id attrs t).2) own
    | destroy id => exact congrArg (fun t => (Named.destroy (.administratorsCatalog k.model) id t).2) own
  have written : ∀ request : CatalogRequest, (∀ t, request.apply env t = t) ∧ request.writes (k.target request).tableName = [] ∨
      request.writes (k.target request).tableName = [(k.target request).tableName] := by
    intro request
    cases request <;> simp [CatalogRequest.apply,CatalogRequest.writes]
  rcases written request with ⟨idle,none⟩ | one
  · rw [none]
    refine .of_same (fun db => ?_) answer
    rw [k.handle_db,idle,CatalogController.setCatalog_self]
  · rw [one]
    refine .of_single (fun db m apart => ?_) answer fun db db' _ same => ?_
    · rw [k.handle_db]
      exact db.table_setCatalog_of_ne _ apart
    · rw [k.handle_db,k.handle_db,Db.catalog_congr same]
      exact Db.table_setCatalog_self db db' _ _

namespace Scope
variable {α : Type} (s : Scope α)

structure Keeps (own : TableName) (dependents : List TableName) : Prop where
  table : ∀ {db db' : Db}, db.table own = db'.table own → s.table db = s.table db'
  other : ∀ t (db : Db) m, m ≠ own → (s.setTable t db).table m = db.table m
  same : ∀ t (db db' : Db), (s.setTable t db).table own = (s.setTable t db').table own
  spared : ∀ id (db : Db) m, m ∉ own :: dependents → (s.destroy id db).table m = db.table m
  destroyed : ∀ id (db db' : Db) m, db.table m = db'.table m → (s.destroy id db).table m = (s.destroy id db').table m

variable {s}

theorem current_congr {db db' : Db} (table : s.table db = s.table db') (session : Session) :
    s.current db session = s.current db' session := by
  simp only [current,table]

theorem requireNoAuthentication_answer {db db' : Db} (table : s.table db = s.table db') (session : Session)
    {reply reply' : Db × Session × Response} (same : reply.2 = reply'.2) :
    (s.requireNoAuthentication db session reply).2 = (s.requireNoAuthentication db' session reply').2 := by
  unfold requireNoAuthentication
  rw [current_congr table session]
  cases s.current db' session with
  | some id => rfl
  | none => exact same

theorem handle_answer {db db' : Db} (table : s.table db = s.table db') (session : Session) (request : AccountRequest α) :
    (s.handle db session request).2 = (s.handle db' session request).2 := by
  have current := current_congr table session
  cases request with
  | new => exact requireNoAuthentication_answer table session rfl
  | signUp record accepted =>
    refine requireNoAuthentication_answer table session ?_
    rw [table]
    split
    · rfl
    · split <;> rfl
  | signIn account =>
    refine requireNoAuthentication_answer table session ?_
    rw [table]
    cases account.bind (s.table db').find? <;> rfl
  | forgotPassword account =>
    refine requireNoAuthentication_answer table session ?_
    rw [table]
    cases account.bind (s.table db').find? <;> rfl
  | editPassword => exact requireNoAuthentication_answer table session rfl
  | resetPassword account =>
    refine requireNoAuthentication_answer table session ?_
    rw [table]
    cases account.bind (s.table db').find? <;> rfl
  | cancel => exact requireNoAuthentication_answer table session rfl
  | edit =>
    simp only [handle,current]
    cases s.current db' session <;> rfl
  | update record accepted =>
    simp only [handle,current,table]
    cases s.current db' session with
    | none => rfl
    | some id =>
      simp only
      split
      · rfl
      · split <;> rfl
  | destroy =>
    simp only [handle,current]
    cases s.current db' session <;> rfl
  | signOut => rfl

theorem Keeps.frame {own : TableName} {dependents : List TableName} (keeps : s.Keeps own dependents) {session : Session}
    {request : AccountRequest α} {db db' : Db} {session' : Session} (handled : s.Handled db session request db' session')
    {m : TableName} (outside : m ∉ request.writes own dependents) : db'.table m = db.table m := by
  cases handled with
  | signedUp record accepted valid storable => exact keeps.other _ db m fun here => outside (by simp [AccountRequest.writes,here])
  | updated id record accepted current valid storable =>
    exact keeps.other _ db m fun here => outside (by simp [AccountRequest.writes,here])
  | destroyed id current => exact keeps.spared id db m outside
  | _ => rfl

theorem Keeps.effect {own : TableName} {dependents : List TableName} (keeps : s.Keeps own dependents) {db db' : Db}
    (agree : db.table own = db'.table own) (session : Session) (request : AccountRequest α) {m : TableName}
    (written : m ∈ request.writes own dependents) (same : db.table m = db'.table m) :
    (s.handle db session request).1.table m = (s.handle db' session request).1.table m := by
  have table := keeps.table agree
  have current := current_congr table session
  cases request with
  | signUp record accepted =>
    obtain rfl : m = own := List.mem_singleton.mp written
    simp only [handle,requireNoAuthentication,current,table]
    cases s.current db' session with
    | some id => exact same
    | none =>
      simp only
      split
      · exact same
      · split
        · exact same
        · exact keeps.same _ db db'
  | update record accepted =>
    obtain rfl : m = own := List.mem_singleton.mp written
    simp only [handle,current,table]
    cases s.current db' session with
    | none => exact same
    | some id =>
      simp only
      split
      · exact same
      · split
        · exact same
        · exact keeps.same _ db db'
  | destroy =>
    simp only [handle,current]
    cases s.current db' session with
    | none => exact same
    | some id => exact keeps.destroyed id db db' m same
  | _ => cases written

theorem Keeps.footprint {own : TableName} {dependents : List TableName} (keeps : s.Keeps own dependents)
    (session : Session) (request : AccountRequest α) :
    DbFootprint (fun db => s.handle db session request) [own] (request.writes own dependents) where
  frame db m outside := keeps.frame (s.handle_handled db session request) outside
  answer db db' agree := handle_answer (keeps.table (agree own (by simp))) session request
  effect db db' agree m written same := keeps.effect (agree own (by simp)) session request written same

end Scope

theorem usersScope_keeps :
    usersScope.Keeps .users [.profiles,.userProperties,.userLookingForProperties,.userContacts] where
  table same := same
  other t db m apart := Db.table_setTable_of_ne db (n := .users) t apart
  same t db db' := rfl
  spared id db m outside := by
    cases m <;> first | rfl | simp at outside
  destroyed id db db' m same := by
    cases m with
    | users => exact congrArg (fun t : Table User => t.delete id) same
    | profiles => exact congrArg (Profile.destroyTarget id) same
    | userContacts => exact congrArg (fun t : Table UserContact => t.keep fun row => row.val.userId != some id) same
    | userLookingForProperties =>
      exact congrArg (fun t : Table UserLookingForProperty => t.keep fun row => row.val.userId != some id) same
    | userProperties =>
      exact congrArg (fun t : Table UserProperty => t.keep fun row => row.val.userId != some id) same
    | _ => exact same

theorem administratorsScope_keeps : administratorsScope.Keeps .administrators [] where
  table same := same
  other t db m apart := Db.table_setTable_of_ne db (n := .administrators) t apart
  same t db db' := rfl
  spared id db m outside := Db.table_setTable_of_ne db (n := .administrators) _ fun here => outside (by simp [here])
  destroyed id db db' m same := by
    cases m with
    | administrators => exact congrArg (fun t : Table Administrator => t.delete id) same
    | _ => exact same

theorem serve_footprint (env : Env) (session : Session) (action : Action) :
    DbFootprint (fun db => serve env db session action) action.reads action.writes := by
  cases action with
  | home request => exact home_footprint session request
  | userProperties request =>
    exact (userPropertiesController_keeps.footprint env session request).map fun response => (session,response)
  | userLookingForProperties request =>
    exact (userLookingForPropertiesController_keeps.footprint env session request).map fun response => (session,response)
  | profiles request => exact (profiles_footprint env session request).map fun response => (session,response)
  | usersDashboard request => exact (usersDashboard_footprint session request).map fun response => (session,response)
  | catalogs c request => exact (catalogs_footprint env c.controller request).map fun response => (session,response)
  | administratorsDashboard => exact .of_same (fun _ => rfl) fun _ _ _ => rfl
  | administratorsDashboardMissing _ => exact .of_same (fun _ => rfl) fun _ _ _ => rfl
  | users request => exact usersScope_keeps.footprint session request
  | administrators request => exact administratorsScope_keeps.footprint session request

end HyderabadHomes
