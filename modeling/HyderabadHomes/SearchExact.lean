import HyderabadHomes.Search

/-! When the searches are sound, complete and free of duplicates for criteria that
may be left blank. The key of a result fixes every column the queries compare, so a
key is answered for the right reason or for the wrong one, never for both in part. -/
namespace HyderabadHomes
open Relational

/-- An id criterion: nil, the empty string of a prompt, or something that denotes an id. -/
structure IdCriterion where
  literal : Literal
  kind : literal = .null ∨ literal = .text "" ∨ ∃ id, literal.asInteger = .ok (some id)

namespace IdCriterion

def none : IdCriterion := ⟨.null,.inl rfl⟩

def prompt : IdCriterion := ⟨.text "",.inr (.inl rfl)⟩

def ofInt (id : Int) : IdCriterion := ⟨.integer id,.inr (.inr ⟨id,rfl⟩)⟩

def value (c : IdCriterion) : Option Int :=
  match c.literal.asInteger with
  | .ok id => id
  | .error _ => Option.none

theorem asInteger_eq (c : IdCriterion) :
    c.literal.asInteger = if c.literal = .text "" then .error .statementInvalid else .ok c.value := by
  obtain ⟨literal,kind⟩ := c
  rcases kind with rfl | rfl | ⟨id,denotes⟩
  · rfl
  · rfl
  · have filled : literal ≠ .text "" := by
      intro empty
      rw [empty] at denotes
      cases denotes
    simp only [value,denotes,if_neg filled]

end IdCriterion

def textValue (criterion : Option String) : Option String := criterion.filter (fun s => s != "")

def Matches {β : Type} (criterion value : Option β) : Prop := ∃ b, criterion = some b ∧ value = some b

theorem sqlEq_iff_matches {β : Type} [DecidableEq β] (value criterion : Option β) :
    sqlEq value criterion = true ↔ Matches criterion value := by
  cases criterion with
  | none => simp [Matches]
  | some b => simp [Matches]

/-- Comparing with the submitted string matches it, or finds an empty value for a blank. -/
theorem sqlEq_text (value criterion : Option String) :
    sqlEq value criterion = true ↔ Matches (textValue criterion) value ∨ (criterion = some "" ∧ value = some "") := by
  rw [sqlEq_iff_matches]
  cases criterion with
  | none => simp [Matches,textValue]
  | some s =>
    by_cases empty : s = ""
    · simp [Matches,textValue,empty]
    · simp [Matches,textValue,empty]

namespace ListingModel
variable {α : Type} (m : ListingModel α) (t : Table α) (properties kinds : Table Named)

structure Listed (j : Joined α) : Prop where
  listing : j.listing ∈ t.rows
  property : j.property ∈ properties.rows
  kind : j.kind ∈ kinds.rows
  propertyId : m.propertyId j.listing.val = some j.property.id
  kindId : m.kindId j.listing.val = some j.kind.id

theorem listed_iff (j : Joined α) : m.Listed t properties kinds j ↔ j ∈ m.joins t properties kinds := by
  rw [mem_joins]
  constructor
  · intro listed
    obtain ⟨listing,property,kind,propertyId,kindId⟩ := listed
    exact ⟨listing,property,kind,propertyId,kindId⟩
  · intro joined
    obtain ⟨listing,property,kind,propertyId,kindId⟩ := joined
    exact ⟨listing,property,kind,propertyId,kindId⟩

/-- An answer without error: one row for each key of a listing that matches, and no other. -/
def Exact (matching : Joined α → Prop) (answer : Except Error (List (Row ListingKey))) : Prop :=
  ∃ rows, answer = .ok rows ∧ (rows.map Row.val).Nodup ∧
    ∀ key, key ∈ rows.map Row.val ↔ ∃ j, m.Listed t properties kinds j ∧ matching j ∧ m.keyOf j.listing.val = key

variable {m t properties kinds}

theorem Listed.property_eq {i j : Joined α} (hi : m.Listed t properties kinds i) (hj : m.Listed t properties kinds j)
    (same : m.keyOf i.listing.val = m.keyOf j.listing.val) : i.property = j.property := by
  have key := congrArg ListingKey.propertyId same
  have ids : some i.property.id = some j.property.id := by
    rw [← hi.propertyId,← hj.propertyId]
    exact key
  exact Table.eq_of_id hi.property hj.property (Option.some.inj ids)

theorem Listed.kind_eq {i j : Joined α} (hi : m.Listed t properties kinds i) (hj : m.Listed t properties kinds j)
    (same : m.keyOf i.listing.val = m.keyOf j.listing.val) : i.kind = j.kind := by
  have key := congrArg ListingKey.kindId same
  have ids : some i.kind.id = some j.kind.id := by
    rw [← hi.kindId,← hj.kindId]
    exact key
  exact Table.eq_of_id hi.kind hj.kind (Option.some.inj ids)

/-- A query that selects what matches and something more is exact when the surplus
matches as well, provided matching looks at key columns and catalog rows alone. -/
theorem exact_select_iff (plan : Plan) {condition : Joined α → Bool} {matching surplus : Joined α → Prop}
    (splits : ∀ j, condition j = true ↔ matching j ∨ surplus j)
    (keyed : ∀ i j : Joined α, m.keyOf i.listing.val = m.keyOf j.listing.val → i.property = j.property →
      i.kind = j.kind → (matching i ↔ matching j)) :
    m.Exact t properties kinds matching (.ok (m.selectForSearch plan condition (m.joins t properties kinds))) ↔
      ∀ j, m.Listed t properties kinds j → surplus j → matching j := by
  obtain ⟨distinct,keys⟩ := m.selectForSearch_keys plan condition (m.joins t properties kinds)
  constructor
  · intro precise j listed extra
    obtain ⟨rows,same,_,exactly⟩ := precise
    cases same
    have selected := (keys (m.keyOf j.listing.val)).mpr
      ⟨j,(m.listed_iff t properties kinds j).mp listed,(splits j).mpr (.inr extra),rfl⟩
    obtain ⟨i,listed',hit,key⟩ := (exactly _).mp selected
    exact (keyed i j key (listed'.property_eq listed key) (listed'.kind_eq listed key)).mp hit
  · intro covered
    refine ⟨_,rfl,distinct,fun key => (keys key).trans ?_⟩
    constructor
    · intro answered
      obtain ⟨j,member,selected,same⟩ := answered
      have listed := (m.listed_iff t properties kinds j).mpr member
      rcases (splits j).mp selected with hit | extra
      · exact ⟨j,listed,hit,same⟩
      · exact ⟨j,listed,covered j listed extra,same⟩
    · intro wanted
      obtain ⟨j,listed,hit,same⟩ := wanted
      exact ⟨j,(m.listed_iff t properties kinds j).mp listed,(splits j).mpr (.inl hit),same⟩

variable (m)

def MatchesByName (location propType kindType : Option String) (j : Joined α) : Prop :=
  Matches (textValue location) (m.location j.listing.val) ∨ Matches (textValue propType) j.property.val.name ∨
    Matches (textValue kindType) j.kind.val.name

def EmptyByName (location propType kindType : Option String) (j : Joined α) : Prop :=
  (location = some "" ∧ m.location j.listing.val = some "") ∨ (propType = some "" ∧ j.property.val.name = some "") ∨
    (kindType = some "" ∧ j.kind.val.name = some "")

variable {m}

theorem searchByName_exact_iff (plan : Plan) (location propType kindType : Option String) :
    m.Exact t properties kinds (m.MatchesByName location propType kindType)
        (m.searchByName plan t properties kinds (.ofText location) (.ofText propType) (.ofText kindType)) ↔
      ∀ j, m.Listed t properties kinds j → m.EmptyByName location propType kindType j →
        m.MatchesByName location propType kindType j := by
  have query : m.searchByName plan t properties kinds (.ofText location) (.ofText propType) (.ofText kindType) =
      .ok (m.selectForSearch plan
        (fun j => sqlEq (m.location j.listing.val) location || sqlEq j.property.val.name propType ||
          sqlEq j.kind.val.name kindType) (m.joins t properties kinds)) := by
    cases location <;> cases propType <;> cases kindType <;> rfl
  rw [query]
  apply exact_select_iff
  · intro j
    simp only [Bool.or_eq_true,sqlEq_text,MatchesByName,EmptyByName]
    tauto
  · intro i j key property kind
    have location_eq : m.location i.listing.val = m.location j.listing.val := congrArg ListingKey.location key
    simp only [MatchesByName,location_eq,property,kind]

end ListingModel

namespace UserLookingForProperty

def MatchesById (propType lookingFor : IdCriterion) (location : Option String) (j : Joined UserLookingForProperty) : Prop :=
  Matches propType.value (some j.property.id) ∨ Matches lookingFor.value (some j.kind.id) ∨
    Matches (textValue location) j.listing.val.location

def SearchExact (plan : Plan) (db : Db) (propType lookingFor : IdCriterion) (location : Option String) : Prop :=
  model.Exact db.userLookingForProperties db.properties db.lookingFors (MatchesById propType lookingFor location)
    (search plan db propType.literal lookingFor.literal (.ofText location))

def SearchPropertiesExact (plan : Plan) (db : Db) (location propType lookingType : Option String) : Prop :=
  model.Exact db.userLookingForProperties db.properties db.lookingFors (model.MatchesByName location propType lookingType)
    (searchProperties plan db (.ofText location) (.ofText propType) (.ofText lookingType))

theorem search_of_filled (plan : Plan) (db : Db) {propType lookingFor : IdCriterion} (location : Option String)
    (property : propType.literal ≠ .text "") (kind : lookingFor.literal ≠ .text "") :
    search plan db propType.literal lookingFor.literal (.ofText location) =
      .ok (model.selectForSearch plan
        (fun j => sqlEq (some j.property.id) propType.value || sqlEq (some j.kind.id) lookingFor.value ||
          sqlEq j.listing.val.location location)
        (model.joins db.userLookingForProperties db.properties db.lookingFors)) := by
  simp only [search,IdCriterion.asInteger_eq,if_neg property,if_neg kind]
  cases location <;> rfl

theorem search_of_prompt (plan : Plan) (db : Db) {propType lookingFor : IdCriterion} (location : Option String)
    (empty : propType.literal = .text "" ∨ lookingFor.literal = .text "") :
    search plan db propType.literal lookingFor.literal (.ofText location) = .error .statementInvalid := by
  simp only [search,IdCriterion.asInteger_eq]
  rcases empty with property | kind
  · simp only [if_pos property]
  · simp only [if_pos kind]
    split <;> simp_all

theorem search_exact_iff (plan : Plan) (db : Db) (propType lookingFor : IdCriterion) (location : Option String) :
    SearchExact plan db propType lookingFor location ↔
      propType.literal ≠ .text "" ∧ lookingFor.literal ≠ .text "" ∧
        (location = some "" → ∀ j, model.Listed db.userLookingForProperties db.properties db.lookingFors j →
          j.listing.val.location = some "" → MatchesById propType lookingFor location j) := by
  by_cases filled : propType.literal ≠ .text "" ∧ lookingFor.literal ≠ .text ""
  · have decided : model.Exact db.userLookingForProperties db.properties db.lookingFors
          (MatchesById propType lookingFor location)
          (.ok (model.selectForSearch plan
            (fun j => sqlEq (some j.property.id) propType.value || sqlEq (some j.kind.id) lookingFor.value ||
              sqlEq j.listing.val.location location)
            (model.joins db.userLookingForProperties db.properties db.lookingFors))) ↔
        ∀ j, model.Listed db.userLookingForProperties db.properties db.lookingFors j →
          location = some "" ∧ j.listing.val.location = some "" → MatchesById propType lookingFor location j := by
      apply ListingModel.exact_select_iff
      · intro j
        rw [Bool.or_eq_true,Bool.or_eq_true,sqlEq_text,sqlEq_iff_matches,sqlEq_iff_matches]
        unfold MatchesById
        tauto
      · intro i j key property kind
        have same : i.listing.val.location = j.listing.val.location := congrArg ListingKey.location key
        simp only [MatchesById,property,kind,same]
    unfold SearchExact
    rw [search_of_filled plan db location filled.1 filled.2]
    exact decided.trans ⟨fun h => ⟨filled.1,filled.2,fun empty j listed here => h j listed ⟨empty,here⟩⟩,
      fun h j listed extra => h.2.2 extra.1 j listed extra.2⟩
  · have empty : propType.literal = .text "" ∨ lookingFor.literal = .text "" := by
      by_contra both
      exact filled ⟨fun h => both (.inl h),fun h => both (.inr h)⟩
    constructor
    · intro precise
      obtain ⟨rows,answer,_⟩ := precise
      rw [search_of_prompt plan db location empty] at answer
      cases answer
    · intro h
      exact absurd ⟨h.1,h.2.1⟩ filled

end UserLookingForProperty

namespace UserProperty

def SearchPropertiesExact (plan : Plan) (db : Db) (location propType ownershipType : Option String) : Prop :=
  model.Exact db.userProperties db.properties db.ownershipTypes (model.MatchesByName location propType ownershipType)
    (searchProperties plan db (.ofText location) (.ofText propType) (.ofText ownershipType))

end UserProperty

/-- Each search is exact unless an id criterion is the empty string, or an empty text
criterion meets an empty location or name on a listing that nothing else selects. -/
theorem searches_exact_iff (plan : Plan) (db : Db) :
    (∀ (propType lookingFor : IdCriterion) (location : Option String),
      UserLookingForProperty.SearchExact plan db propType lookingFor location ↔
        propType.literal ≠ .text "" ∧ lookingFor.literal ≠ .text "" ∧
          (location = some "" → ∀ j,
            UserLookingForProperty.model.Listed db.userLookingForProperties db.properties db.lookingFors j →
              j.listing.val.location = some "" → UserLookingForProperty.MatchesById propType lookingFor location j)) ∧
    (∀ location propType lookingType : Option String,
      UserLookingForProperty.SearchPropertiesExact plan db location propType lookingType ↔
        ∀ j, UserLookingForProperty.model.Listed db.userLookingForProperties db.properties db.lookingFors j →
          UserLookingForProperty.model.EmptyByName location propType lookingType j →
            UserLookingForProperty.model.MatchesByName location propType lookingType j) ∧
    (∀ location propType ownershipType : Option String,
      UserProperty.SearchPropertiesExact plan db location propType ownershipType ↔
        ∀ j, UserProperty.model.Listed db.userProperties db.properties db.ownershipTypes j →
          UserProperty.model.EmptyByName location propType ownershipType j →
            UserProperty.model.MatchesByName location propType ownershipType j) := by
  refine ⟨?_,?_,?_⟩
  · intro propType lookingFor location
    exact UserLookingForProperty.search_exact_iff plan db propType lookingFor location
  · intro location propType lookingType
    exact ListingModel.searchByName_exact_iff plan location propType lookingType
  · intro location propType ownershipType
    exact ListingModel.searchByName_exact_iff plan location propType ownershipType

/-- A form whose property select was left at its prompt. -/
theorem search_from_prompt_inexact :
    ¬ UserLookingForProperty.SearchExact (DistinctOn.first Row.val) Db.empty .prompt (.ofInt 1) (some "Hyderabad") := by
  intro precise
  obtain ⟨rows,answer,_⟩ := precise
  cases answer

end HyderabadHomes
