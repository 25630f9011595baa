import HyderabadHomes.App
import HyderabadHomes.Transition.Run

/-! Referential integrity of the listings. Validations look at the presence of the ids
alone and the catalogs declare no dependents, so each reference stands or falls with what
requests submit and delete. -/
namespace HyderabadHomes
open Relational Transition

namespace ListingModel
variable {α : Type} (m : ListingModel α)

structure Integral (t : Table α) (users : Table User) (properties kinds : Table Named) : Prop where
  user : ForeignKey m.userId t users
  property : ForeignKey m.propertyId t properties
  kind : ForeignKey m.kindId t kinds

structure Viewable (t : Table α) (properties kinds : Table Named) : Prop where
  renders : ∀ rows, (∀ row ∈ rows, row ∈ t.rows) →
    ∃ shown, renderRows properties kinds m.propertyId m.kindId rows = .ok shown ∧ shown.map (·.1) = rows
  joined : ∀ row ∈ t.rows, ∃ j ∈ m.joins t properties kinds, j.listing = row

variable {m} {t : Table α} {users : Table User} {properties kinds : Table Named}

theorem Integral.viewable (h : m.Integral t users properties kinds) : m.Viewable t properties kinds where
  renders rows inside := renderRows_ok fun row member =>
    ⟨h.property row (inside row member),h.kind row (inside row member)⟩
  joined row member := by
    obtain ⟨p,hp,property⟩ := h.property row member
    obtain ⟨k,hk,kind⟩ := h.kind row member
    exact ⟨⟨row,p,k⟩,m.mem_joins.mpr ⟨member,hp,hk,property,kind⟩,rfl⟩

end ListingModel

namespace ListingRequest
variable {α : Type}

def KeepsReferences (m : ListingModel α) (env : Env) (currentUser : Int) (t : Table α) (users : Table User)
    (properties kinds : Table Named) : ListingRequest α → Prop
  | .create attrs addr answer =>
    (m.created env currentUser attrs addr answer).isSome →
      Refers (ListingModel.submittedId "property_id" attrs none) properties ∧
        Refers (ListingModel.submittedId m.kindKey attrs none) kinds
  | .update id attrs answer =>
    ∀ row, t.find? (Ruby.toI id) = some row → (m.updated env currentUser row.val attrs answer).isSome →
      Refers (ListingModel.submittedId "user_id" attrs (some currentUser)) users ∧
        Refers (ListingModel.submittedId "property_id" attrs (m.propertyId row.val)) properties ∧
        Refers (ListingModel.submittedId m.kindKey attrs (m.kindId row.val)) kinds
  | _ => True

theorem integral_iff {m : ListingModel α} {t : Table α} {users : Table User} {properties kinds : Table Named}
    (h : m.Integral t users properties kinds) {currentUser : Int} (known : Refers (some currentUser) users) (env : Env)
    (request : ListingRequest α) :
    m.Integral (request.apply m env currentUser t) users properties kinds ↔
      request.KeepsReferences m env currentUser t users properties kinds := by
  cases request with
  | create attrs addr answer =>
    simp only [apply,KeepsReferences]
    cases saved : m.created env currentUser attrs addr answer with
    | none => exact ⟨fun _ stored => absurd stored (by simp),fun _ => h⟩
    | some stored =>
      obtain ⟨owner,property,kind⟩ := ListingModel.created_ids saved
      rw [← property,← kind]
      constructor
      · intro after _
        exact ⟨(h.property.insert_child_iff stored).mp after.property,(h.kind.insert_child_iff stored).mp after.kind⟩
      · intro refers
        obtain ⟨hp,hk⟩ := refers rfl
        exact ⟨(h.user.insert_child_iff stored).mpr (owner ▸ known),(h.property.insert_child_iff stored).mpr hp,
          (h.kind.insert_child_iff stored).mpr hk⟩
  | update id attrs answer =>
    simp only [apply,KeepsReferences]
    have user := h.user.rewrite_child_iff (Ruby.toI id) fun row => m.updated env currentUser row.val attrs answer
    have property := h.property.rewrite_child_iff (Ruby.toI id) fun row => m.updated env currentUser row.val attrs answer
    have kind := h.kind.rewrite_child_iff (Ruby.toI id) fun row => m.updated env currentUser row.val attrs answer
    constructor
    · intro after row found accepted
      obtain ⟨stored,saved⟩ := Option.isSome_iff_exists.mp accepted
      obtain ⟨hu,hp,hk⟩ := ListingModel.updated_ids saved
      rw [← hu,← hp,← hk]
      exact ⟨user.mp after.user row stored found saved,property.mp after.property row stored found saved,
        kind.mp after.kind row stored found saved⟩
    · intro refers
      have each : ∀ row stored, t.find? (Ruby.toI id) = some row →
          m.updated env currentUser row.val attrs answer = some stored →
          Refers (m.userId stored) users ∧ Refers (m.propertyId stored) properties ∧ Refers (m.kindId stored) kinds := by
        intro row stored found saved
        obtain ⟨hu,hp,hk⟩ := ListingModel.updated_ids saved
        rw [hu,hp,hk]
        exact refers row found (Option.isSome_iff_exists.mpr ⟨stored,saved⟩)
      exact ⟨user.mpr fun row stored found saved => (each row stored found saved).1,
        property.mpr fun row stored found saved => (each row stored found saved).2.1,
        kind.mpr fun row stored found saved => (each row stored found saved).2.2⟩
  | destroy id =>
    exact ⟨fun _ => trivial,fun _ => ⟨h.user.delete_child _,h.property.delete_child _,h.kind.delete_child _⟩⟩
  | _ => exact ⟨fun _ => trivial,fun _ => h⟩

end ListingRequest

structure Integrity (db : Db) : Prop where
  userProperties : UserProperty.model.Integral db.userProperties db.users db.properties db.ownershipTypes
  userLookingForProperties :
    UserLookingForProperty.model.Integral db.userLookingForProperties db.users db.properties db.lookingFors

def Unreferenced (db : Db) (id : Int) : Catalog → Prop
  | .properties =>
    (∀ row ∈ db.userProperties.rows, row.val.propertyId ≠ some id) ∧
      ∀ row ∈ db.userLookingForProperties.rows, row.val.propertyId ≠ some id
  | .ownershipTypes => ∀ row ∈ db.userProperties.rows, row.val.ownershipTypeId ≠ some id
  | .lookingFors => ∀ row ∈ db.userLookingForProperties.rows, row.val.lookingForId ≠ some id

namespace Integrity
variable {db : Db}

theorem setCatalog_of_kept (h : Integrity db) (c : Catalog) {t : Table Named}
    (kept : ∀ id ∈ (db.catalog c).ids, id ∈ t.ids) : Integrity (db.setCatalog c t) := by
  obtain ⟨⟨user,property,kind⟩,user',property',kind'⟩ := h
  cases c with
  | properties => exact ⟨⟨user,property.parent_mono kept,kind⟩,user',property'.parent_mono kept,kind'⟩
  | ownershipTypes => exact ⟨⟨user,property,kind.parent_mono kept⟩,user',property',kind'⟩
  | lookingFors => exact ⟨⟨user,property,kind⟩,user',property',kind'.parent_mono kept⟩

theorem delete_catalog_iff (h : Integrity db) (c : Catalog) (id : Int) :
    Integrity (db.setCatalog c ((db.catalog c).delete id)) ↔ Unreferenced db id c := by
  obtain ⟨⟨user,property,kind⟩,user',property',kind'⟩ := h
  cases c with
  | properties =>
    constructor
    · intro after
      exact ⟨(property.delete_parent_iff id).mp after.1.property,(property'.delete_parent_iff id).mp after.2.property⟩
    · intro free
      exact ⟨⟨user,(property.delete_parent_iff id).mpr free.1,kind⟩,user',(property'.delete_parent_iff id).mpr free.2,kind'⟩
  | ownershipTypes =>
    constructor
    · intro after
      exact (kind.delete_parent_iff id).mp after.1.kind
    · intro free
      exact ⟨⟨user,property,(kind.delete_parent_iff id).mpr free⟩,user',property',kind'⟩
  | lookingFors =>
    constructor
    · intro after
      exact (kind'.delete_parent_iff id).mp after.2.kind
    · intro free
      exact ⟨⟨user,property,kind⟩,user',property',(kind'.delete_parent_iff id).mpr free⟩

theorem users_of_kept (h : Integrity db) {t : Table User} (kept : ∀ id ∈ db.users.ids, id ∈ t.ids) :
    Integrity {db with users := t} :=
  ⟨⟨h.1.user.parent_mono kept,h.1.property,h.1.kind⟩,h.2.user.parent_mono kept,h.2.property,h.2.kind⟩

theorem kept_user {α : Type} {owner : α → Option Int} {t : Table α} {users : Table User} (h : ForeignKey owner t users)
    (id : Int) : ForeignKey owner (t.keep fun row => owner row.val != some id) (users.delete id) := by
  have rest : ForeignKey owner (t.keep fun row => owner row.val != some id) users :=
    h.child_subset fun row member => (Table.mem_keep.mp member).1
  apply (rest.delete_parent_iff id).mpr
  intro row member
  simpa using (Table.mem_keep.mp member).2

theorem destroy_user (h : Integrity db) (id : Int) : Integrity (User.destroy id db) where
  userProperties := ⟨kept_user h.1.user id,h.1.property.child_subset fun _ member => (Table.mem_keep.mp member).1,
    h.1.kind.child_subset fun _ member => (Table.mem_keep.mp member).1⟩
  userLookingForProperties := ⟨kept_user h.2.user id,h.2.property.child_subset fun _ member => (Table.mem_keep.mp member).1,
    h.2.kind.child_subset fun _ member => (Table.mem_keep.mp member).1⟩

theorem users_request (h : Integrity db) (session : Session) (request : AccountRequest User) :
    Integrity (usersScope.handle db session request).1 := by
  refine usersScope.handle_preserves Integrity h (fun record => ?_) (fun id record => ?_) h.destroy_user session request
  · exact h.users_of_kept fun _ => Table.mem_ids_insert record
  · exact h.users_of_kept fun _ => Table.mem_ids_update id _

theorem administrators_request (h : Integrity db) (session : Session) (request : AccountRequest Administrator) :
    Integrity (administratorsScope.handle db session request).1 :=
  administratorsScope.handle_preserves Integrity h (fun _ => ⟨h.1,h.2⟩) (fun _ _ => ⟨h.1,h.2⟩) (fun _ => ⟨h.1,h.2⟩)
    session request

theorem createProperties (h : Integrity db) (session : Session) (property : Option (List (Option String)))
    (answer : Row UserLookingForProperty → Geocoding) (known : ∀ user, currentUser db session = some user →
      Refers (some user) db.users) :
    Integrity {db with userLookingForProperties :=
      (HomeController.createProperties (currentUser db session) property answer db.userLookingForProperties).1} := by
  rcases HomeController.createProperties_effect (currentUser db session) property answer db.userLookingForProperties with
    same | ⟨user,added,signedIn,made,copies⟩
  · rw [same]
    exact h
  · rw [made]
    refine ⟨h.1,h.2.user.insertAll_child ?_,h.2.property.insertAll_repeats ?_,h.2.kind.insertAll_repeats ?_⟩
    · intro copy member
      obtain ⟨_,_,owner,_⟩ := copies copy member
      have refers := known user signedIn
      rw [← owner] at refers
      exact refers
    · intro copy member
      obtain ⟨product,inside,_,_,key⟩ := copies copy member
      exact ⟨product,inside,congrArg ListingKey.propertyId key⟩
    · intro copy member
      obtain ⟨product,inside,_,_,key⟩ := copies copy member
      exact ⟨product,inside,congrArg ListingKey.kindId key⟩

end Integrity

/-- A request stores no id without a row, and destroys no catalog row that a listing refers to. -/
def KeepsReferences (env : Env) (app : App) (request : Request) : Prop :=
  match request.action,currentUser app.db (app.sessions request.browser) with
  | .userProperties listing,some user =>
    listing.KeepsReferences UserProperty.model env user app.db.userProperties app.db.users app.db.properties
      app.db.ownershipTypes
  | .userLookingForProperties listing,some user =>
    listing.KeepsReferences UserLookingForProperty.model env user app.db.userLookingForProperties app.db.users
      app.db.properties app.db.lookingFors
  | .catalogs c (.destroy id),_ => Unreferenced app.db (Ruby.toI id) (c.controller.target (.destroy id))
  | _,_ => True

theorem integrity_catalogs_iff {db : Db} (h : Integrity db) (env : Env) (session : Session) (c : Catalog)
    (request : CatalogRequest) :
    Integrity ((Action.catalogs c request).apply env db session) ↔
      ∀ id, request = .destroy id → Unreferenced db (Ruby.toI id) (c.controller.target request) := by
  simp only [Action.apply]
  cases request with
  | destroy id =>
    rw [CatalogRequest.apply,h.delete_catalog_iff]
    constructor
    · intro free other same
      cases same
      exact free
    · intro free
      exact free id rfl
  | create attrs =>
    refine ⟨fun _ id same => absurd same (by simp),fun _ => h.setCatalog_of_kept _ fun i member => ?_⟩
    simp only [CatalogRequest.apply]
    cases Named.accepted env (db.catalog (c.controller.target (.create attrs))) none Named.fresh attrs with
    | none => exact member
    | some record =>
      exact Table.mem_ids_insert record member
  | update id attrs =>
    refine ⟨fun _ id same => absurd same (by simp),fun _ => h.setCatalog_of_kept _ fun i member => ?_⟩
    rw [CatalogRequest.apply,Table.ids_rewrite]
    exact member
  | _ => exact ⟨fun _ id same => absurd same (by simp),fun _ => h.setCatalog_of_kept _ fun _ member => member⟩

theorem integrity_step_iff (env : Env) (app : App) (request : Request) (h : Integrity app.db) :
    Integrity (app.next env request).db ↔ KeepsReferences env app request := by
  obtain ⟨browser,action⟩ := request
  unfold KeepsReferences
  rw [App.next_db]
  cases action with
  | home request =>
    cases request with
    | createProperties property answer =>
      exact ⟨fun _ => trivial,fun _ => h.createProperties _ property answer fun _ => currentUser_refers⟩
    | _ => exact ⟨fun _ => trivial,fun _ => h⟩
  | userProperties listing =>
    simp only [Action.apply]
    cases signedIn : currentUser app.db (app.sessions browser) with
    | none => exact ⟨fun _ => trivial,fun _ => h⟩
    | some user =>
      have exactly := ListingRequest.integral_iff h.1 (currentUser_refers signedIn) env listing
      exact ⟨fun after => exactly.mp after.1,fun keeps => ⟨exactly.mpr keeps,h.2⟩⟩
  | userLookingForProperties listing =>
    simp only [Action.apply]
    cases signedIn : currentUser app.db (app.sessions browser) with
    | none => exact ⟨fun _ => trivial,fun _ => h⟩
    | some user =>
      have exactly := ListingRequest.integral_iff h.2 (currentUser_refers signedIn) env listing
      exact ⟨fun after => exactly.mp after.2,fun keeps => ⟨h.1,exactly.mpr keeps⟩⟩
  | profiles request => exact ⟨fun _ => trivial,fun _ => ⟨h.1,h.2⟩⟩
  | usersDashboard request =>
    obtain ⟨contacts,effect⟩ := UsersDashboard.handle_effect app.db (currentUser app.db (app.sessions browser)) request
    refine ⟨fun _ => trivial,fun _ => ?_⟩
    simp only [Action.apply,effect]
    exact ⟨h.1,h.2⟩
  | catalogs c request =>
    rw [integrity_catalogs_iff h]
    cases request with
    | destroy id =>
      constructor
      · intro free
        exact free id rfl
      · intro free other same
        cases same
        exact free
    | _ => exact ⟨fun _ => trivial,fun _ id same => absurd same (by simp)⟩
  | administratorsDashboard => exact ⟨fun _ => trivial,fun _ => h⟩
  | administratorsDashboardMissing _ => exact ⟨fun _ => trivial,fun _ => h⟩
  | users request => exact ⟨fun _ => trivial,fun _ => h.users_request _ request⟩
  | administrators request => exact ⟨fun _ => trivial,fun _ => h.administrators_request _ request⟩

def Viewable (db : Db) : Prop :=
  UserProperty.model.Viewable db.userProperties db.properties db.ownershipTypes ∧
    UserLookingForProperty.model.Viewable db.userLookingForProperties db.properties db.lookingFors

/-- From a whole database, references stay whole throughout a run exactly when every
request keeps them, and then no listing is ever lost to a view or to a join. -/
theorem run_integrity_iff (env : Env) (app : App) (requests : List Request) (start : Integrity app.db) :
    (Throughout (App.next env) (fun app => Integrity app.db) app requests ↔
      Along (App.next env) (KeepsReferences env) app requests) ∧
    (Along (App.next env) (KeepsReferences env) app requests →
      Throughout (App.next env) (fun app => Viewable app.db) app requests) := by
  have exactly := throughout_iff_along (App.next env) (integrity_step_iff env) start requests
  refine ⟨exactly,fun keeps => ?_⟩
  rw [throughout_iff_take]
  intro n
  have whole := (throughout_iff_take (App.next env)).mp (exactly.mpr keeps) n
  exact ⟨whole.1.viewable,whole.2.viewable⟩

theorem integrity_empty : Integrity Db.empty where
  userProperties := ⟨.empty _,.empty _,.empty _⟩
  userLookingForProperties := ⟨.empty _,.empty _,.empty _⟩

theorem first_listing_keeps_integrity :
    Throughout (App.next .production) (fun app => Integrity app.db) (App.init Db.empty)
      [⟨0,.catalogs .properties (.create [("name",some "Flat")])⟩,
        ⟨0,.catalogs .ownershipTypes (.create [("name",some "Owned")])⟩,
        ⟨0,.users (.signUp ⟨"owner@example.com"⟩ true)⟩,
        ⟨0,.userProperties (.create [("property_id",some "1"),("ownership_type_id",some "1")] (some "Hyderabad")
          (.accepted none none))⟩] := by
  apply (run_integrity_iff .production (App.init Db.empty) _ integrity_empty).1.mpr
  refine ⟨trivial,trivial,trivial,fun _ => ⟨⟨⟨1,⟨some "Flat"⟩⟩,?_,?_⟩,⟨1,⟨some "Owned"⟩⟩,?_,?_⟩,trivial⟩
  all_goals decide

/-- The form's property id is not checked against the catalog. -/
theorem listing_of_missing_property :
    Integrity (App.init Db.empty).db ∧
      ¬ Throughout (App.next .production) (fun app => Integrity app.db) (App.init Db.empty)
        [⟨0,.users (.signUp ⟨"owner@example.com"⟩ true)⟩,
          ⟨0,.userProperties (.create [("property_id",some "1"),("ownership_type_id",some "1")] (some "Hyderabad")
            (.accepted none none))⟩] := by
  refine ⟨integrity_empty,fun whole => ?_⟩
  obtain ⟨_,_,last⟩ := whole
  have dangling := last.userProperties.property ⟨1,⟨some 1,some "Hyderabad",some 1,none,some 1,none,none⟩⟩ (by decide)
  obtain ⟨row,member,_⟩ := dangling
  cases member

end HyderabadHomes
