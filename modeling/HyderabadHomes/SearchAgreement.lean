import HyderabadHomes.SessionHistory
import HyderabadHomes.WellFormed

/-! The two searches of looking-for listings. The public one compares ids that its form took
from the catalogs, the one for users compares names that they type; where names are unique
both answer alike. -/
namespace HyderabadHomes
open Relational Transition

/-- Two criteria for one row, its id for the public search and its name for the other; or
neither asks for any. -/
inductive Denotes (t : Table Named) : Option String → Option String → Prop
  | absent : Denotes t none none
  | row {r : Row Named} {id name : String} (member : r ∈ t.rows) (reads : (Literal.text id).asInteger = .ok (some r.id))
      (named : r.val.name = some name) : Denotes t (some id) (some name)

namespace Denotes
variable {t : Table Named} {id name : Option String}

theorem reads (denotes : Denotes t id name) : ∃ value, (Literal.ofText id).asInteger = .ok value := by
  cases denotes with
  | absent => exact ⟨none,rfl⟩
  | row member reads named => exact ⟨_,reads⟩

theorem iff (denotes : Denotes t id name) {env : Env} (unique : t.Unique (Named.SameName env)) {r : Row Named}
    (member : r ∈ t.rows) : (Literal.ofText id).asInteger = .ok (some r.id) ↔ Matches name r.val.name := by
  cases denotes with
  | absent => simp [Literal.ofText,Literal.asInteger,Matches]
  | row inside reads named =>
    rename_i held _ _
    constructor
    · intro same
      have ids : held.id = r.id := by
        rw [Literal.ofText,reads] at same
        exact Option.some.inj (Except.ok.inj same)
      exact ⟨_,rfl,by rw [← Table.eq_of_id inside member ids,named]⟩
    · intro same
      obtain ⟨_,text,also⟩ := same
      cases text
      have one : held = r := unique held inside r member (by rw [Named.SameName,named,also])
      rw [← one]
      exact reads

end Denotes

namespace UserLookingForProperty
variable {db : Db}

theorem searchProperties_ofText (plan : Plan) (db : Db) (location propType lookingType : Option String) :
    searchProperties plan db (.ofText location) (.ofText propType) (.ofText lookingType) =
      .ok (model.selectForSearch plan
        (fun j => sqlEq j.listing.val.location location || sqlEq j.property.val.name propType ||
          sqlEq j.kind.val.name lookingType)
        (model.joins db.userLookingForProperties db.properties db.lookingFors)) := by
  cases location <;> cases propType <;> cases lookingType <;> rfl

theorem searchProperties_keys {plan : Plan} {location propType lookingType : Option String} {rows : List (Row ListingKey)}
    (ok : searchProperties plan db (.ofText location) (.ofText propType) (.ofText lookingType) = .ok rows) :
    (rows.map Row.val).Nodup ∧ ∀ key, key ∈ rows.map Row.val ↔
      ∃ j, Listing db j ∧ (Matches location j.listing.val.location ∨ Matches propType j.property.val.name ∨
        Matches lookingType j.kind.val.name) ∧ model.keyOf j.listing.val = key := by
  rw [searchProperties_ofText] at ok
  cases ok
  obtain ⟨distinct,keys⟩ := model.selectForSearch_keys plan
    (fun j => sqlEq j.listing.val.location location || sqlEq j.property.val.name propType ||
      sqlEq j.kind.val.name lookingType)
    (model.joins db.userLookingForProperties db.properties db.lookingFors)
  refine ⟨distinct,fun key => (keys key).trans ?_⟩
  simp only [Bool.or_eq_true,or_assoc,sqlEq_iff_matches,← ListingModel.listed_iff]

theorem search_nodup {plan : Plan} {propType lookingFor location : Literal} {rows : List (Row ListingKey)}
    (ok : search plan db propType lookingFor location = .ok rows) : (rows.map Row.val).Nodup := by
  obtain ⟨p,k,l,_,_,_,rfl⟩ := search_eq_ok ok
  exact (model.selectForSearch_keys plan _ _).1

theorem search_keys_of_denotes {env : Env} {plan : Plan} {byId byName : Criteria} {addr : Option String}
    {rows : List (Row ListingKey)} (ok : Queries plan db byId addr rows)
    (properties : db.properties.Unique (Named.SameName env)) (kinds : db.lookingFors.Unique (Named.SameName env))
    (property : Denotes db.properties byId.propertyId byName.propertyId)
    (kind : Denotes db.lookingFors byId.kindId byName.kindId) (key : ListingKey) :
    key ∈ rows.map Row.val ↔
      ∃ j, Listing db j ∧ (Matches addr j.listing.val.location ∨ Matches byName.propertyId j.property.val.name ∨
        Matches byName.kindId j.kind.val.name) ∧ model.keyOf j.listing.val = key := by
  rw [search_keys ok]
  refine exists_congr fun j => and_congr_right fun listed => and_congr_left fun _ => ?_
  have place : (∃ s, Literal.ofText addr = .text s ∧ j.listing.val.location = some s) ↔
      Matches addr j.listing.val.location := by
    simp only [ofText_eq_text,Matches]
  unfold Hits
  rw [property.iff properties listed.property,kind.iff kinds listed.kind,place]
  tauto

end UserLookingForProperty

/-- The page of a search by name, which always renders. -/
theorem serve_searchByName (env : Env) (plan : Plan) (criteria : Criteria) (addr : Option String) {db : Db}
    {session : Session} (signedIn : (currentUser db session).isSome) :
    ∃ shown, (serve env db session (.userLookingForProperties (.search plan (some criteria) addr))).2.2 =
        .render (.searchResults shown) ∧
      UserLookingForProperty.searchProperties plan db (.ofText addr) (.ofText criteria.propertyId)
        (.ofText criteria.kindId) = .ok (shown.map (·.1)) := by
  obtain ⟨user,current⟩ := Option.isSome_iff_exists.mp signedIn
  have query := UserLookingForProperty.searchProperties_ofText plan db addr criteria.propertyId criteria.kindId
  obtain ⟨_,keys⟩ := UserLookingForProperty.searchProperties_keys query
  generalize UserLookingForProperty.model.selectForSearch plan _ _ = rows at query keys
  have refers : ∀ row ∈ rows, Refers row.val.propertyId db.properties ∧ Refers row.val.kindId db.lookingFors := by
    intro row member
    obtain ⟨j,listed,_,key⟩ := (keys row.val).mp (List.mem_map_of_mem member)
    rw [← key]
    exact ⟨⟨j.property,listed.property,listed.propertyId⟩,⟨j.kind,listed.kind,listed.kindId⟩⟩
  obtain ⟨shown,rendered,same⟩ := renderRows_ok refers
  refine ⟨shown,?_,by rw [query,same]⟩
  have page : userLookingForPropertiesController.renderSearch db rows = .render (.searchResults shown) := by
    have names : renderRows db.properties (db.catalog userLookingForPropertiesController.kinds) ListingKey.propertyId
        ListingKey.kindId rows = .ok shown := rendered
    simp only [ListingController.renderSearch,names]
  have found : userLookingForPropertiesController.searchProperties plan db (.ofText addr) (.ofText criteria.propertyId)
      (.ofText criteria.kindId) = .ok rows := query
  simp only [serve,authenticateUser,current,ListingController.handle,found,page]

def flatWanted : List Request :=
  [⟨0,.catalogs .properties (.create [("name",some "Flat")])⟩,⟨0,.catalogs .lookingFors (.create [("name",some "Rent")])⟩,
    ⟨1,.users (.signUp ⟨"a@x"⟩ true)⟩,
    ⟨1,.userLookingForProperties (.create [("property_id",some "1"),("looking_for_id",some "1")] (some "Hyderabad")
      (.accepted none none))⟩]

end HyderabadHomes
