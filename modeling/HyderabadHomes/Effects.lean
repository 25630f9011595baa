import HyderabadHomes.Footprints
import HyderabadHomes.Views

/-! The footprint of a request on the whole application, its session and its page included,
and what follows for runs from the footprints alone. -/
namespace HyderabadHomes
open Relational Transition

inductive Component
  | table (n : TableName)
  | session (browser : Nat)
deriving DecidableEq,Repr

def Component.Content : Component → Type
  | .table n => Table n.Record
  | .session _ => Session

namespace App

def content (app : App) : (c : Component) → c.Content
  | .table n => app.db.table n
  | .session browser => app.sessions browser

end App

namespace Action

def renders : Action → Bool
  | .home .addToCart => false
  | .home (.createProperties _ _) => false
  | .userProperties (.create _ _ _) => false
  | .userProperties (.destroy _) => false
  | .userLookingForProperties (.create _ _ _) => false
  | .userLookingForProperties (.destroy _) => false
  | .profiles (.destroy _) => false
  | .usersDashboard (.createContacts _) => false
  | .usersDashboard (.missing _) => false
  | .catalogs _ (.destroy _) => false
  | .administratorsDashboardMissing _ => false
  | .users .cancel => false
  | .users .destroy => false
  | .users .signOut => false
  | .administrators .cancel => false
  | .administrators .destroy => false
  | .administrators .signOut => false
  | _ => true

def bodyReads : Action → List TableName
  | .home .index => [.properties,.lookingFors]
  | .userProperties _ => [.properties,.ownershipTypes]
  | .userLookingForProperties _ => [.properties,.lookingFors]
  | .usersDashboard .index => [.properties,.ownershipTypes,.lookingFors]
  | _ => []

def pageReads (action : Action) : List TableName :=
  action.reads ++ if action.renders then
    [.users,.administrators,.profiles,.userProperties,.userLookingForProperties] ++ action.bodyReads
  else []

end Action

theorem ListingModel.create_not_render {α : Type} (m : ListingModel α) (path : Int → Path) (env : Env)
    (currentUser : Int) (attrs : Attrs) (addr : Option String) (answer : Geocoding) (t : Table α) (page : Page) :
    (m.create path env currentUser attrs addr answer t).2 ≠ .render page := by
  unfold create
  cases m.new env attrs with
  | error e => simp
  | ok record =>
    simp only
    cases m.save answer (m.setLocation addr (m.setUserId currentUser record)) <;> simp

theorem ListingModel.destroy_not_render {α : Type} (index : Path) (id : String) (t : Table α) (page : Page) :
    (destroy index id t).2 ≠ .render page := by
  unfold destroy
  cases t.find? (Ruby.toI id) <;> simp

theorem HomeController.createProperties_not_render (currentUser : Option Int) (property : Option (List (Option String)))
    (answer : Row UserLookingForProperty → Geocoding) (t : Table UserLookingForProperty) (page : Page) :
    (createProperties currentUser property answer t).2 ≠ .render page := by
  unfold createProperties
  cases property with
  | none => simp
  | some ids =>
    cases found : findMany t ids with
    | error e => simp [found]
    | ok products =>
      cases currentUser with
      | none =>
        simp only [found]
        cases products.isEmpty <;> simp [favouritesAdded]
      | some user =>
        simp only [found]
        rcases saveCopies user answer products t with ⟨t',e⟩
        cases e <;> simp [favouritesAdded]

theorem Scope.handle_destroy_not_render {α : Type} (s : Scope α) (db : Db) (session : Session) (page : Page) :
    (s.handle db session .destroy).2.2 ≠ .render page := by
  simp only [handle]
  cases s.current db session <;> simp

theorem Scope.handle_cancel_not_render {α : Type} (s : Scope α) (db : Db) (session : Session) (page : Page) :
    (s.handle db session .cancel).2.2 ≠ .render page := by
  simp only [handle,requireNoAuthentication]
  cases s.current db session <;> simp

theorem serve_not_render {env : Env} {db : Db} {session : Session} {action : Action} (never : action.renders = false)
    (page : Page) : (serve env db session action).2.2 ≠ .render page := by
  cases action with
  | home request =>
    cases request with
    | addToCart =>
      simp only [serve,HomeController.handle,HomeController.addToCart]
      cases currentUser db session <;> simp
    | createProperties property answer => exact HomeController.createProperties_not_render _ _ _ _ page
    | _ => cases never
  | userProperties request =>
    simp only [serve,authenticateUser]
    cases currentUser db session with
    | none => simp
    | some user =>
      cases request with
      | create attrs addr answer => exact ListingModel.create_not_render _ _ _ _ _ _ _ _ page
      | destroy id => exact ListingModel.destroy_not_render _ _ _ page
      | _ => cases never
  | userLookingForProperties request =>
    simp only [serve,authenticateUser]
    cases currentUser db session with
    | none => simp
    | some user =>
      cases request with
      | create attrs addr answer => exact ListingModel.create_not_render _ _ _ _ _ _ _ _ page
      | destroy id => exact ListingModel.destroy_not_render _ _ _ page
      | _ => cases never
  | profiles request =>
    cases request with
    | destroy id => simp [serve,ProfilesController.handle]
    | _ => cases never
  | usersDashboard request =>
    cases request with
    | createContacts email => cases email <;> simp [serve,UsersDashboard.handle]
    | missing action => simp [serve,UsersDashboard.handle]
    | _ => cases never
  | catalogs c request =>
    cases request with
    | destroy id =>
      simp only [serve,CatalogController.handle,Db.within,Named.destroy]
      cases (db.catalog c.controller.found).find? (Ruby.toI id) <;> simp
    | _ => cases never
  | administratorsDashboard => cases never
  | administratorsDashboardMissing _ => simp [serve]
  | users request =>
    cases request with
    | cancel => exact usersScope.handle_cancel_not_render db session page
    | destroy => exact usersScope.handle_destroy_not_render db session page
    | signOut => simp [serve,Scope.handle]
    | _ => cases never
  | administrators request =>
    cases request with
    | cancel => exact administratorsScope.handle_cancel_not_render db session page
    | destroy => exact administratorsScope.handle_destroy_not_render db session page
    | signOut => simp [serve,Scope.handle]
    | _ => cases never

theorem Layout.of_congr {db db' : Db} (users : db.users = db'.users) (administrators : db.administrators = db'.administrators)
    (profiles : db.profiles = db'.profiles) (owned : db.userProperties = db'.userProperties)
    (wanted : db.userLookingForProperties = db'.userLookingForProperties) (session : Session) :
    Layout.of db session = Layout.of db' session := by
  have administrator : currentAdministrator db session = currentAdministrator db' session := by
    simp only [currentAdministrator,Scope.current,administratorsScope,administrators]
  simp only [Layout.of,administrator,currentUser_of_users users session,users,profiles,owned,wanted]

theorem Action.view_congr {action : Action} {db db' : Db} {session : Session} {response : Response}
    (never : action.renders = false → ∀ page, response ≠ .render page)
    (agree : ∀ n ∈ action.pageReads, db.table n = db'.table n) :
    action.view db session response = action.view db' session response := by
  cases response with
  | redirect path notice => rfl
  | error e => rfl
  | render page =>
    have renders : action.renders = true := by
      cases does : action.renders with
      | false => exact absurd rfl (never does page)
      | true => rfl
    have read : ∀ n ∈ [.users,.administrators,.profiles,.userProperties,.userLookingForProperties] ++ action.bodyReads,
        db.table n = db'.table n := by
      intro n member
      refine agree n (List.mem_append_right _ ?_)
      rw [if_pos renders]
      exact member
    have users : db.users = db'.users := read .users (by simp)
    have administrators : db.administrators = db'.administrators := read .administrators (by simp)
    have profiles : db.profiles = db'.profiles := read .profiles (by simp)
    have owned : db.userProperties = db'.userProperties := read .userProperties (by simp)
    have wanted : db.userLookingForProperties = db'.userLookingForProperties := read .userLookingForProperties (by simp)
    have administrator : currentAdministrator db session = currentAdministrator db' session := by
      simp only [currentAdministrator,Scope.current,administratorsScope,administrators]
    have body : action.body db session page = action.body db' session page := by
      cases action with
      | home request =>
        cases request with
        | index =>
          have properties : db.properties = db'.properties := read .properties (by simp [bodyReads])
          have kinds : db.lookingFors = db'.lookingFors := read .lookingFors (by simp [bodyReads])
          simp only [Action.body,administrator,currentUser_of_users users session,properties,kinds]
        | _ => rfl
      | userProperties request =>
        have properties : db.properties = db'.properties := read .properties (by simp [bodyReads])
        have kinds : db.ownershipTypes = db'.ownershipTypes := read .ownershipTypes (by simp [bodyReads])
        cases page <;> simp only [Action.body,properties,kinds]
      | userLookingForProperties request =>
        have properties : db.properties = db'.properties := read .properties (by simp [bodyReads])
        have kinds : db.lookingFors = db'.lookingFors := read .lookingFors (by simp [bodyReads])
        cases page <;> simp only [Action.body,properties,kinds]
      | usersDashboard request =>
        cases request with
        | index =>
          have properties : db.properties = db'.properties := read .properties (by simp [bodyReads])
          have ownership : db.ownershipTypes = db'.ownershipTypes := read .ownershipTypes (by simp [bodyReads])
          have kinds : db.lookingFors = db'.lookingFors := read .lookingFors (by simp [bodyReads])
          simp only [Action.body,dashboardCharts,currentUser_of_users users session,properties,ownership,kinds,owned,wanted]
        | _ => rfl
      | administratorsDashboard => simp only [Action.body,usersList,users,profiles]
      | _ => rfl
    simp only [view,body,Layout.of_congr users administrators profiles owned wanted session]

def Action.touchesSession : Action → Bool
  | .home (.searchProperties _ _ _) => true
  | .home .addToCart => true
  | .home (.addToFavourites _) => true
  | .users _ => true
  | .administrators _ => true
  | _ => false

theorem serve_session_of_untouched (env : Env) (db : Db) (session : Session) {action : Action}
    (untouched : action.touchesSession = false) : (serve env db session action).2.1 = session := by
  cases action with
  | home request =>
    cases request with
    | searchProperties plan search addr => cases untouched
    | addToCart => cases untouched
    | addToFavourites plan => cases untouched
    | _ => rfl
  | users request => cases untouched
  | administrators request => cases untouched
  | _ => rfl

namespace Request

def uses (request : Request) : Set Component
  | .table n => n ∈ request.action.reads
  | .session browser => browser = request.browser

def changes (request : Request) : Set Component
  | .table n => n ∈ request.action.writes
  | .session browser => browser = request.browser ∧ request.action.touchesSession = true

def reads (request : Request) : Set Component
  | .table n => n ∈ request.action.pageReads
  | .session browser => browser = request.browser

def writes (request : Request) : Set Component
  | .table n => n ∈ request.action.writes
  | .session browser => browser = request.browser

end Request

theorem App.step_changes (env : Env) (request : Request) :
    Footprint App.content (fun app => app.step env request) request.uses request.changes where
  frame app c outside := by
    cases c with
    | table n => exact (serve_footprint env (app.sessions request.browser) request.action).frame app.db n outside
    | session browser =>
      by_cases own : browser = request.browser
      · subst own
        have untouched : request.action.touchesSession = false :=
          Bool.eq_false_iff.mpr fun touches => outside ⟨rfl,touches⟩
        refine (if_pos rfl).trans ?_
        exact serve_session_of_untouched env app.db (app.sessions request.browser) untouched
      · exact if_neg own
  answer app app' agree := by
    have session : app.sessions request.browser = app'.sessions request.browser := agree (.session request.browser) rfl
    have answer := (serve_footprint env (app.sessions request.browser) request.action).answer app.db app'.db
      fun n member => agree (.table n) member
    change (serve env app.db (app.sessions request.browser) request.action).2.2 =
      (serve env app'.db (app'.sessions request.browser) request.action).2.2
    rw [← session]
    exact congrArg Prod.snd answer
  effect app app' agree c written same := by
    have session : app.sessions request.browser = app'.sessions request.browser := agree (.session request.browser) rfl
    have print := serve_footprint env (app.sessions request.browser) request.action
    have tables : ∀ n ∈ request.action.reads, app.db.table n = app'.db.table n := fun n member => agree (.table n) member
    cases c with
    | table n =>
      change (serve env app.db (app.sessions request.browser) request.action).1.table n =
        (serve env app'.db (app'.sessions request.browser) request.action).1.table n
      rw [← session]
      exact print.effect app.db app'.db tables n written same
    | session browser =>
      change (if browser = request.browser then (serve env app.db (app.sessions request.browser) request.action).2.1
        else app.sessions browser) = if browser = request.browser then
          (serve env app'.db (app'.sessions request.browser) request.action).2.1 else app'.sessions browser
      rw [if_pos written.1,if_pos written.1,← session]
      exact congrArg Prod.fst (print.answer app.db app'.db tables)

theorem App.step_footprint (env : Env) (request : Request) :
    Footprint App.content (fun app => app.step env request) request.reads request.writes := by
  refine (App.step_changes env request).mono (fun c used => ?_) fun c changed => ?_
  · cases c with
    | table n => exact List.mem_append_left _ used
    | session browser => exact used
  · cases c with
    | table n => exact changed
    | session browser => exact changed.1

theorem App.ext_content (app app' : App) (same : ∀ c, app.content c = app'.content c) : app = app' := by
  cases app
  cases app'
  simp only [App.mk.injEq]
  exact ⟨Db.ext_tables fun n => same (.table n),funext fun browser => same (.session browser)⟩

/-- As far as the state is concerned, whatever the pages show. -/
theorem App.changes (env : Env) : Footprints App.content (App.step env) Request.uses Request.changes :=
  ⟨App.ext_content,App.step_changes env⟩

theorem App.footprints (env : Env) : Footprints App.content (App.show env) Request.reads Request.writes where
  ext := App.ext_content
  each request := by
    refine (App.step_footprint env request).observe
      (fun response app => request.action.view app.db (app.sessions request.browser) response) fun app app' app'' agree => ?_
    have session : app'.sessions request.browser = app''.sessions request.browser := agree (.session request.browser) rfl
    simp only [session]
    exact Action.view_congr (fun never => serve_not_render never) fun n member => agree (.table n) member

def Request.Unrelated (a b : Request) : Prop :=
  a.browser ≠ b.browser ∧ (∀ n ∈ a.action.writes, n ∉ b.action.pageReads ∧ n ∉ b.action.writes) ∧
    ∀ n ∈ b.action.writes, n ∉ a.action.pageReads ∧ n ∉ a.action.writes

instance (a b : Request) : Decidable (a.Unrelated b) :=
  inferInstanceAs (Decidable (a.browser ≠ b.browser ∧ (∀ n ∈ a.action.writes, n ∉ b.action.pageReads ∧ n ∉ b.action.writes) ∧
    ∀ n ∈ b.action.writes, n ∉ a.action.pageReads ∧ n ∉ a.action.writes))

theorem Request.independent_of_unrelated (a b : Request) (unrelated : a.Unrelated b) :
    Independent Request.reads Request.writes a b := by
  obtain ⟨browsers,left,right⟩ := unrelated
  constructor
  · intro c written
    cases c with
    | table n => exact left n written
    | session browser => exact ⟨fun here => browsers (written.symm.trans here),fun here => browsers (written.symm.trans here)⟩
  · intro c written
    cases c with
    | table n => exact right n written
    | session browser => exact ⟨fun here => browsers (here.symm.trans written),fun here => browsers (here.symm.trans written)⟩

/-- What none of the requests of a run reads has no influence on any page that the run
shows, nor on any other table or session that it leaves. -/
theorem unread_tables_have_no_influence (env : Env) (hidden : List TableName) (requests : List Request)
    (blind : ∀ request ∈ requests, ∀ n ∈ hidden, n ∉ request.action.pageReads) {app app' : App}
    (sessions : app.sessions = app'.sessions) (tables : ∀ n, n ∉ hidden → app.db.table n = app'.db.table n) :
    answers (App.show env) app requests = answers (App.show env) app' requests ∧
      (run (App.next env) app requests).sessions = (run (App.next env) app' requests).sessions ∧
      ∀ n, n ∉ hidden → (run (App.next env) app requests).db.table n = (run (App.next env) app' requests).db.table n := by
  have agree : Agree App.content {c | c ∉ {c | ∃ n ∈ hidden, c = Component.table n}} app app' := by
    intro c outside
    cases c with
    | table n => exact tables n fun member => outside ⟨n,member,rfl⟩
    | session browser => exact congrFun sessions browser
  have unread : ∀ request ∈ requests, ∀ c ∈ {c | ∃ n ∈ hidden, c = Component.table n}, c ∉ request.reads := by
    intro request member c inside
    obtain ⟨n,listed,rfl⟩ := inside
    exact blind request member n listed
  obtain ⟨same,after⟩ := (App.footprints env).hidden unread agree
  refine ⟨same,funext fun browser => after (.session browser) ?_,fun n seen => after (.table n) ?_⟩
  · intro inside
    obtain ⟨n,_,wrong⟩ := inside
    cases wrong
  · intro inside
    obtain ⟨m,listed,here⟩ := inside
    cases here
    exact seen listed

theorem Action.contacts_not_read (action : Action) : .userContacts ∉ action.pageReads := by
  have controller : .userContacts ∉ action.reads := by
    cases action with
    | home request => cases request <;> simp [reads,HomeRequest.reads]
    | userProperties request =>
      cases request <;> simp [reads,ListingRequest.reads,ListingRequest.dereferences,Catalog.tableName]
    | userLookingForProperties request =>
      cases request <;> simp [reads,ListingRequest.reads,ListingRequest.dereferences,Catalog.tableName]
    | profiles request => cases request <;> simp [reads,ProfileRequest.reads]
    | usersDashboard request => cases request <;> simp [reads,DashboardRequest.reads]
    | catalogs c request =>
      simp only [reads]
      cases c.controller.target request <;> simp [Catalog.tableName]
    | administratorsDashboard => simp [reads]
    | administratorsDashboardMissing _ => simp [reads]
    | users request => simp [reads]
    | administrators request => simp [reads]
  have body : .userContacts ∉ action.bodyReads := by
    unfold bodyReads
    split <;> simp
  unfold pageReads
  rw [List.mem_append,not_or]
  refine ⟨controller,?_⟩
  split
  · rw [List.mem_append,not_or]
    exact ⟨by simp,body⟩
  · simp

/-- The contacts that users import are written, loaded and deleted, but no answer of any run
depends on them. -/
theorem contacts_are_never_read (env : Env) (requests : List Request) (app : App) (contacts : Table UserContact) :
    answers (App.show env) {app with db := {app.db with userContacts := contacts}} requests =
      answers (App.show env) app requests := by
  have blind : ∀ request ∈ requests, ∀ n ∈ [TableName.userContacts], n ∉ request.action.pageReads := by
    intro request _ n hidden
    obtain rfl := List.mem_singleton.mp hidden
    exact request.action.contacts_not_read
  have sessions : ({app with db := {app.db with userContacts := contacts}} : App).sessions = app.sessions := rfl
  refine (unread_tables_have_no_influence env [.userContacts] requests blind sessions fun n seen => ?_).1
  exact Db.table_setTable_of_ne app.db (n := .userContacts) contacts fun here => seen (by simp [here])

end HyderabadHomes
