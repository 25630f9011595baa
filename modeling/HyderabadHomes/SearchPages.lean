import HyderabadHomes.App
import HyderabadHomes.SearchExact

/-! The public search of looking-for listings and the favourites page: the listings that they
show, and the columns of the last one, which the page leaves in the session. -/
namespace HyderabadHomes
open Relational

abbrev Shown := Row ListingKey × Row Named × Row Named

def keysOf (shown : List Shown) : List ListingKey := shown.map fun row => row.1.val

theorem keysOf_eq {shown : List Shown} : keysOf shown = (shown.map (·.1)).map Row.val := by
  unfold keysOf
  rw [List.map_map]
  rfl

namespace UserLookingForProperty

def Hits (propType lookingFor location : Literal) (j : Joined UserLookingForProperty) : Prop :=
  propType.asInteger = .ok (some j.property.id) ∨ lookingFor.asInteger = .ok (some j.kind.id) ∨
    ∃ s, location = .text s ∧ j.listing.val.location = some s

abbrev Listing (db : Db) (j : Joined UserLookingForProperty) : Prop :=
  model.Listed db.userLookingForProperties db.properties db.lookingFors j

theorem sqlEq_asInteger {literal : Literal} {value : Option Int} (read : literal.asInteger = .ok value) (id : Int) :
    sqlEq (some id) value = true ↔ literal.asInteger = .ok (some id) := by
  rw [read]
  cases value with
  | none => simp
  | some n =>
    rw [sqlEq_some]
    constructor
    · intro same
      cases same
      rfl
    · intro same
      cases same
      rfl

theorem sqlEq_asText {literal : Literal} {value : Option String} (read : literal.asText = .ok value)
    (held : Option String) : sqlEq held value = true ↔ ∃ s, literal = .text s ∧ held = some s := by
  cases literal with
  | null =>
    cases read
    simp
  | text s =>
    cases read
    simp
  | integer n => cases read

theorem search_keys {plan : Plan} {db : Db} {propType lookingFor location : Literal} {rows : List (Row ListingKey)}
    (ok : search plan db propType lookingFor location = .ok rows) (key : ListingKey) :
    key ∈ rows.map Row.val ↔
      ∃ j, Listing db j ∧ Hits propType lookingFor location j ∧ model.keyOf j.listing.val = key := by
  obtain ⟨p,k,l,property,kind,place,rfl⟩ := search_eq_ok ok
  rw [(model.selectForSearch_keys plan _ _).2]
  have hits : ∀ j : Joined UserLookingForProperty, (sqlEq (some j.property.id) p || sqlEq (some j.kind.id) k ||
      sqlEq j.listing.val.location l) = true ↔ Hits propType lookingFor location j := by
    intro j
    unfold Hits
    rw [Bool.or_eq_true,Bool.or_eq_true,or_assoc,sqlEq_asInteger property,sqlEq_asInteger kind,sqlEq_asText place]
  simp only [hits,← ListingModel.listed_iff]

/-- Any listing that is hit can be made to come last. -/
theorem search_endingWith {plan : Plan} {db : Db} {propType lookingFor location : Literal} {rows : List (Row ListingKey)}
    (ok : search plan db propType lookingFor location = .ok rows) {key : ListingKey} (member : key ∈ rows.map Row.val) :
    ∃ rows' last, search (plan.endingWith key) db propType lookingFor location = .ok rows' ∧
      rows'.getLast? = some last ∧ last.val = key := by
  obtain ⟨p,k,l,property,kind,place,rfl⟩ := search_eq_ok ok
  obtain ⟨row,inside,same⟩ := List.mem_map.mp member
  obtain ⟨last,found,equal⟩ := plan.endingWith_getLast ((plan.admissible _).sound row inside) same
  refine ⟨_,last,?_,found,equal⟩
  simp only [search,property,kind,place]
  rfl

theorem search_ofSession (plan : Plan) (db : Db) (property lookingFor : Option Int) (location : Option String) :
    ∃ rows, search plan db (.ofInteger property) (.ofInteger lookingFor) (.ofText location) = .ok rows := by
  cases property <;> cases lookingFor <;> cases location <;> exact ⟨_,rfl⟩

variable {db : Db}

theorem Hits.of_key {propType lookingFor location : Literal} {i j : Joined UserLookingForProperty} (hi : Listing db i)
    (hj : Listing db j) (same : model.keyOf i.listing.val = model.keyOf j.listing.val)
    (hit : Hits propType lookingFor location i) : Hits propType lookingFor location j := by
  have place : i.listing.val.location = j.listing.val.location := congrArg ListingKey.location same
  unfold Hits
  rw [← hi.property_eq hj same,← hi.kind_eq hj same,← place]
  exact hit

theorem hits_columns {propertyId kindId : Int} {location : Option String} {j : Joined UserLookingForProperty} :
    Hits (.ofInteger (some propertyId)) (.ofInteger (some kindId)) (.ofText location) j ↔
      propertyId = j.property.id ∨ kindId = j.kind.id ∨ ∃ s, location = some s ∧ j.listing.val.location = some s := by
  unfold Hits
  cases location with
  | none => simp [Literal.ofInteger,Literal.ofText,Literal.asInteger]
  | some s => simp [Literal.ofInteger,Literal.ofText,Literal.asInteger]

theorem mem_keys_iff {plan : Plan} {propType lookingFor location : Literal} {rows : List (Row ListingKey)}
    (ok : search plan db propType lookingFor location = .ok rows) {j : Joined UserLookingForProperty}
    (listed : Listing db j) :
    model.keyOf j.listing.val ∈ rows.map Row.val ↔ Hits propType lookingFor location j := by
  rw [search_keys ok]
  constructor
  · intro answered
    obtain ⟨i,listed',hit,same⟩ := answered
    exact hit.of_key listed' listed same
  · intro hit
    exact ⟨j,listed,hit,rfl⟩

end UserLookingForProperty

namespace HomeController

theorem remember_fold (session : Session) (shown : List Shown) :
    (shown.foldl remember session).user = session.user ∧
      (shown.foldl remember session).administrator = session.administrator ∧
      (shown.foldl remember session).returnTo = session.returnTo ∧
      ∀ last, shown.getLast? = some last → (shown.foldl remember session).location = last.1.val.location ∧
        (shown.foldl remember session).property = some last.2.1.id ∧
        (shown.foldl remember session).lookingFor = some last.2.2.id := by
  induction shown using List.reverseRecOn with
  | nil => exact ⟨rfl,rfl,rfl,fun _ none => by cases none⟩
  | append_singleton front row ih =>
    rw [List.foldl_append]
    refine ⟨ih.1,ih.2.1,ih.2.2.1,fun last found => ?_⟩
    rw [List.getLast?_concat] at found
    cases found
    exact ⟨rfl,rfl,rfl⟩

theorem renderRows_names {α : Type} {properties kinds : Table Named} {propertyId kindId : α → Option Int}
    {rows : List (Row α)} {shown : List (Row α × Row Named × Row Named)}
    (ok : renderRows properties kinds propertyId kindId rows = .ok shown) :
    ∀ row ∈ shown, propertyId row.1.val = some row.2.1.id ∧ kindId row.1.val = some row.2.2.id := by
  induction rows generalizing shown with
  | nil =>
    cases ok
    simp
  | cons first rest ih =>
    unfold renderRows at ok
    cases names : dereference properties kinds (propertyId first.val) (kindId first.val) with
    | error e => simp [names] at ok
    | ok pair =>
      cases later : renderRows properties kinds propertyId kindId rest with
      | error e => simp [names,later] at ok
      | ok tail =>
        simp only [names,later] at ok
        cases ok
        intro row member
        rcases List.mem_cons.mp member with here | inside
        · rw [here]
          exact dereference_ids names
        · exact ih later row inside

theorem renderSearch_of_search {plan : Plan} {db : Db} {propType lookingFor location : Literal}
    {rows : List (Row ListingKey)} (ok : UserLookingForProperty.search plan db propType lookingFor location = .ok rows)
    (session : Session) :
    ∃ shown, renderSearch db session rows = (shown.foldl remember session,.render (.searchResults shown)) ∧
      shown.map (·.1) = rows ∧
      ∀ row ∈ shown, row.1.val.propertyId = some row.2.1.id ∧ row.1.val.kindId = some row.2.2.id := by
  have refers : ∀ row ∈ rows, Refers row.val.propertyId db.properties ∧ Refers row.val.kindId db.lookingFors := by
    intro row member
    obtain ⟨j,listed,_,same⟩ := (UserLookingForProperty.search_keys ok row.val).mp (List.mem_map_of_mem member)
    rw [← same]
    exact ⟨⟨j.property,listed.property,listed.propertyId⟩,⟨j.kind,listed.kind,listed.kindId⟩⟩
  obtain ⟨shown,rendered,same⟩ := renderRows_ok refers
  exact ⟨shown,by simp only [renderSearch,rendered],same,renderRows_names rendered⟩

end HomeController

section Pages
variable (env : Env) {db : Db} {display : Plan} {criteria : Criteria} {addr : Option String}
  {rows : List (Row ListingKey)}

abbrev Queries (plan : Plan) (db : Db) (criteria : Criteria) (addr : Option String) (rows : List (Row ListingKey)) : Prop :=
  UserLookingForProperty.search plan db (.ofText criteria.propertyId) (.ofText criteria.kindId) (.ofText addr) = .ok rows

theorem serve_search (ok : Queries display db criteria addr rows) (session : Session) :
    ∃ shown, serve env db session (.home (.searchProperties display (some criteria) addr)) =
        (db,shown.foldl HomeController.remember session,.render (.searchResults shown)) ∧
      shown.map (·.1) = rows ∧
      ∀ row ∈ shown, row.1.val.propertyId = some row.2.1.id ∧ row.1.val.kindId = some row.2.2.id := by
  obtain ⟨shown,page,same,names⟩ := HomeController.renderSearch_of_search ok session
  refine ⟨shown,?_,same,names⟩
  simp only [serve,HomeController.handle,HomeController.searchProperties,ok,page]

theorem serve_search_shown {session : Session} {shown : List Shown}
    (page : (serve env db session (.home (.searchProperties display (some criteria) addr))).2.2 =
      .render (.searchResults shown)) :
    Queries display db criteria addr (shown.map (·.1)) ∧
      serve env db session (.home (.searchProperties display (some criteria) addr)) =
        (db,shown.foldl HomeController.remember session,.render (.searchResults shown)) ∧
      ∀ row ∈ shown, row.1.val.propertyId = some row.2.1.id ∧ row.1.val.kindId = some row.2.2.id := by
  cases ok : UserLookingForProperty.search display db (.ofText criteria.propertyId) (.ofText criteria.kindId)
      (.ofText addr) with
  | error e =>
    simp only [serve,HomeController.handle,HomeController.searchProperties,ok] at page
    cases page
  | ok rows =>
    obtain ⟨shown',reply,same,names⟩ := serve_search env ok session
    rw [reply] at page
    cases page
    exact ⟨by rw [Queries,ok,same],reply,names⟩

theorem serve_addToFavourites (later : Plan) (db : Db) (session : Session) :
    ∃ again, (serve env db session (.home (.addToFavourites later))).2.2 = .render (.searchResults again) ∧
      UserLookingForProperty.search later db (.ofInteger session.property) (.ofInteger session.lookingFor)
        (.ofText session.location) = .ok (again.map (·.1)) := by
  obtain ⟨rows,ok⟩ := UserLookingForProperty.search_ofSession later db session.property session.lookingFor session.location
  obtain ⟨again,page,same,_⟩ := HomeController.renderSearch_of_search ok session
  refine ⟨again,?_,by rw [ok,same]⟩
  simp only [serve,HomeController.handle,HomeController.addToFavourites,ok,page]

end Pages

end HyderabadHomes
