import HyderabadHomes.LoginSearch
import HyderabadHomes.Sessions

/-! Listings that refer to a catalog row that has been deleted. Their pages fail and no search
shows them, for as long as they are left as they are: a deleted id is not given out again. -/
namespace HyderabadHomes
open Relational Transition

inductive ListingKind
  | userProperties
  | userLookingForProperties
deriving DecidableEq,Repr

namespace ListingKind

def Record : ListingKind → Type
  | .userProperties => UserProperty
  | .userLookingForProperties => UserLookingForProperty

def controller : (k : ListingKind) → ListingController k.Record
  | .userProperties => userPropertiesController
  | .userLookingForProperties => userLookingForPropertiesController

def action : (k : ListingKind) → ListingRequest k.Record → Action
  | .userProperties,request => .userProperties request
  | .userLookingForProperties,request => .userLookingForProperties request

def reference (k : ListingKind) : Catalog → k.Record → Option Int
  | .properties,r => k.controller.model.propertyId r
  | c,r => if c = k.controller.kinds then k.controller.model.kindId r else none

theorem serve_action (k : ListingKind) (env : Env) (db : Db) (session : Session) (request : ListingRequest k.Record) :
    (serve env db session (k.action request)).2.2 =
      (authenticateUser db session fun user => k.controller.handle env db user request).2 := by
  cases k <;> rfl

inductive Searches : ListingKind → Action → Prop
  | own (k : ListingKind) (plan : Plan) (search : Option Criteria) (addr : Option String) :
      Searches k (k.action (.search plan search addr))
  | home (plan : Plan) (search : Option Criteria) (addr : Option String) :
      Searches .userLookingForProperties (.home (.searchProperties plan search addr))
  | favourites (plan : Plan) : Searches .userLookingForProperties (.home (.addToFavourites plan))

end ListingKind

theorem dereference_error {properties kinds : Table Named} {propertyId kindId : Option Int}
    (orphan : ¬ (Refers propertyId properties ∧ Refers kindId kinds)) :
    dereference properties kinds propertyId kindId = .error .noMethod := by
  unfold dereference
  split
  · rename_i p k property kind
    exact absurd ⟨refers_iff_find.mpr ⟨p,property⟩,refers_iff_find.mpr ⟨k,kind⟩⟩ orphan
  · rfl

/-- One orphan among the rows is enough. -/
theorem renderRows_error {α : Type} {properties kinds : Table Named} {propertyId kindId : α → Option Int}
    {rows : List (Row α)} {row : Row α} (member : row ∈ rows)
    (orphan : ¬ (Refers (propertyId row.val) properties ∧ Refers (kindId row.val) kinds)) :
    renderRows properties kinds propertyId kindId rows = .error .noMethod := by
  induction rows with
  | nil => cases member
  | cons first rest ih =>
    unfold renderRows
    by_cases whole : Refers (propertyId first.val) properties ∧ Refers (kindId first.val) kinds
    · obtain ⟨names,read⟩ := dereference_ok whole.1 whole.2
      have later : row ∈ rest := by
        rcases List.mem_cons.mp member with rfl | later
        · exact absurd whole orphan
        · exact later
      simp only [read,ih later]
    · simp only [dereference_error whole]

theorem renderRows_refers {α : Type} {properties kinds : Table Named} {propertyId kindId : α → Option Int}
    {rows : List (Row α)} {shown : List (Row α × Row Named × Row Named)}
    (ok : renderRows properties kinds propertyId kindId rows = .ok shown) :
    ∀ row ∈ shown, Refers (propertyId row.1.val) properties ∧ Refers (kindId row.1.val) kinds := by
  have whole : ∀ row ∈ rows, Refers (propertyId row.val) properties ∧ Refers (kindId row.val) kinds := by
    intro row member
    by_contra orphan
    rw [renderRows_error member orphan] at ok
    cases ok
  obtain ⟨shown',again,same⟩ := renderRows_ok whole
  rw [again] at ok
  cases ok
  intro row member
  exact whole row.1 (same ▸ List.mem_map_of_mem member)

namespace ListingKind

def Orphan (k : ListingKind) (db : Db) (r : k.Record) : Prop :=
  ¬ (Refers (k.controller.model.propertyId r) db.properties ∧
    Refers (k.controller.model.kindId r) (db.catalog k.controller.kinds))

theorem orphan_of_reference {k : ListingKind} {db : Db} {c : Catalog} {r : k.Record} {id : Int}
    (refers : k.reference c r = some id) (gone : id ∉ (db.catalog c).ids) : k.Orphan db r := by
  intro whole
  have missing : ∀ t : Table Named, id ∉ t.ids → ¬ Refers (some id) t := by
    intro t absent found
    obtain ⟨i,present,same⟩ := refers_iff_ids.mp found
    cases same
    exact absent present
  cases c with
  | properties =>
    have property : k.controller.model.propertyId r = some id := refers
    rw [property] at whole
    exact missing _ gone whole.1
  | ownershipTypes =>
    simp only [reference] at refers
    split at refers
    · rename_i own
      rw [refers,← own] at whole
      exact missing _ gone whole.2
    · cases refers
  | lookingFors =>
    simp only [reference] at refers
    split at refers
    · rename_i own
      rw [refers,← own] at whole
      exact missing _ gone whole.2
    · cases refers

section Orphan
variable {k : ListingKind} {db : Db} {row : Row k.Record} (stored : row ∈ (k.controller.table db).rows)
  (orphan : k.Orphan db row.val)
include orphan

theorem renderListings_orphan {rows : List (Row k.Record)} (member : row ∈ rows) :
    k.controller.renderListings db rows = .error .noMethod := by
  unfold ListingController.renderListings
  rw [renderRows_error member orphan]

include stored

theorem show_orphan (env : Env) {session : Session} {text : String} (named : Ruby.toI text = row.id)
    (signedIn : (currentUser db session).isSome) :
    (serve env db session (k.action (.show text))).2.2 = .error .noMethod := by
  obtain ⟨user,current⟩ := Option.isSome_iff_exists.mp signedIn
  have found : (k.controller.table db).find? (Ruby.toI text) = some row := Table.find?_eq_some.mpr ⟨stored,named.symm⟩
  simp only [serve_action,authenticateUser,current,ListingController.handle,found]
  exact renderListings_orphan orphan (List.mem_singleton.mpr rfl)

theorem index_orphan (env : Env) {session : Session} {onPage : Row k.Record → Bool} (inside : onPage row = true)
    {user : Int} (current : currentUser db session = some user) (owner : k.controller.model.userId row.val = some user) :
    (serve env db session (k.action (.index onPage))).2.2 = .error .noMethod := by
  simp only [serve_action,authenticateUser,current,ListingController.handle]
  apply renderListings_orphan orphan
  rw [List.mem_reverse,List.mem_filter]
  exact ⟨stored,by simp [owner,inside]⟩

end Orphan

theorem renderSearch_refers {db : Db} {session : Session} {rows : List (Row ListingKey)} {shown : List Shown}
    (page : (HomeController.renderSearch db session rows).2 = .render (.searchResults shown)) :
    ∀ row ∈ shown, Refers row.1.val.propertyId db.properties ∧ Refers row.1.val.kindId db.lookingFors := by
  unfold HomeController.renderSearch at page
  cases names : renderRows db.properties db.lookingFors ListingKey.propertyId ListingKey.kindId rows with
  | error e =>
    rw [names] at page
    cases page
  | ok shown' =>
    rw [names] at page
    cases page
    exact renderRows_refers names

theorem searches_refer {k : ListingKind} {action : Action} (searches : k.Searches action) {env : Env} {db : Db}
    {session : Session} {shown : List Shown}
    (page : (serve env db session action).2.2 = .render (.searchResults shown)) :
    ∀ row ∈ shown, Refers row.1.val.propertyId db.properties ∧
      Refers row.1.val.kindId (db.catalog k.controller.kinds) := by
  cases searches with
  | own _ plan search addr =>
    rw [serve_action,authenticateUser] at page
    cases current : currentUser db session with
    | none =>
      rw [current] at page
      cases page
    | some user =>
      rw [current] at page
      cases search with
      | none => cases page
      | some criteria =>
        simp only [ListingController.handle] at page
        split at page
        · cases page
        · rename_i rows _
          simp only [ListingController.renderSearch] at page
          cases names : renderRows db.properties (db.catalog k.controller.kinds) ListingKey.propertyId ListingKey.kindId rows with
          | error e =>
            rw [names] at page
            cases page
          | ok shown' =>
            rw [names] at page
            cases page
            exact renderRows_refers names
  | home plan search addr =>
    simp only [serve,HomeController.handle,HomeController.searchProperties] at page
    cases search with
    | none => cases page
    | some criteria =>
      simp only at page
      split at page
      · cases page
      · exact renderSearch_refers page
  | favourites plan =>
    simp only [serve,HomeController.handle,HomeController.addToFavourites] at page
    split at page
    · cases page
    · exact renderSearch_refers page

end ListingKind

theorem Db.catalog_ids (db : Db) (c : Catalog) : (db.catalog c).ids = (db.table c.tableName).ids := by
  cases c <;> rfl

/-- Once a row of a catalog has been deleted, each listing that refers to it fails on its own
page and on every index page of its owner that it is on, and no search of its kind shows it,
in every later state: no row that is created afterwards takes the place of the deleted one. -/
theorem orphaned_listing_breaks_pages (env : Env) (app : App) (requests : List Request) (c : Catalog) {id : Int}
    {h i j : Nat} (order : h ≤ i) (later : i ≤ j)
    (stored : id ∈ ((stateAt (App.next env) app requests h).db.catalog c).ids)
    (gone : id ∉ ((stateAt (App.next env) app requests i).db.catalog c).ids) (k : ListingKind) {row : Row k.Record}
    (listed : row ∈ (k.controller.table (stateAt (App.next env) app requests j).db).rows)
    (refers : k.reference c row.val = some id) (browser : Nat) :
    let reached := stateAt (App.next env) app requests j
    (∀ text, Ruby.toI text = row.id → (currentUser reached.db (reached.sessions browser)).isSome →
        (reached.step env ⟨browser,k.action (.show text)⟩).2 = .error .noMethod) ∧
      (∀ onPage user, onPage row = true → currentUser reached.db (reached.sessions browser) = some user →
        k.controller.model.userId row.val = some user →
        (reached.step env ⟨browser,k.action (.index onPage)⟩).2 = .error .noMethod) ∧
      ∀ action, k.Searches action → ∀ shown, (reached.step env ⟨browser,action⟩).2 = .render (.searchResults shown) →
        k.controller.model.keyOf row.val ∉ keysOf shown := by
  intro reached
  have missing : id ∉ (reached.db.catalog c).ids := by
    rw [Db.catalog_ids] at stored gone ⊢
    exact (App.stateAt_evolves env app requests order c.tableName).stays_gone
      (App.stateAt_evolves env app requests later c.tableName) stored gone
  have orphan := ListingKind.orphan_of_reference refers missing
  refine ⟨?_,?_,?_⟩
  · intro text named signedIn
    exact ListingKind.show_orphan listed orphan env named signedIn
  · intro onPage user inside current owner
    exact ListingKind.index_orphan listed orphan env inside current owner
  · intro action searches shown page present
    obtain ⟨other,member,same⟩ := List.mem_map.mp present
    have whole := ListingKind.searches_refer searches page other member
    rw [same] at whole
    exact orphan whole

def typeReplaced : List Request :=
  [⟨0,.users (.signUp ⟨"a@x"⟩ true)⟩,⟨1,.catalogs .properties (.create [("name",some "Flat")])⟩,
    ⟨1,.catalogs .ownershipTypes (.create [("name",some "Owned")])⟩,
    ⟨0,.userProperties (.create [("property_id",some "1"),("ownership_type_id",some "1")] (some "Hyderabad")
      (.accepted none none))⟩,
    ⟨1,.catalogs .properties (.destroy "1")⟩,⟨1,.catalogs .properties (.create [("name",some "Flat")])⟩]

theorem replaced_type_breaks_index :
    let reached := stateAt (App.next .production) (App.init .empty) typeReplaced 6
    (reached.step .production ⟨0,.userProperties (.index fun _ => true)⟩).2 = .error .noMethod := by
  have listed : (⟨1,⟨some 1,some "Hyderabad",some 1,none,some 1,none,none⟩⟩ : Row UserProperty) ∈
      (stateAt (App.next .production) (App.init .empty) typeReplaced 6).db.userProperties.rows := by decide
  exact (orphaned_listing_breaks_pages .production (App.init .empty) typeReplaced .properties (show 4 ≤ 5 by decide)
    (show 5 ≤ 6 by decide) (by decide) (by decide) .userProperties listed rfl 0).2.1 _ 1 rfl rfl rfl

end HyderabadHomes
