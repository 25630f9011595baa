import HyderabadHomes.Listing
import HyderabadHomes.Relational.DistinctOn

/-! The search queries: an inner join with both catalogs, an OR of three comparisons
with spliced literals, and DISTINCT ON the three columns of `ListingKey`. -/
namespace HyderabadHomes
open Relational

inductive Literal
  | null
  | text (s : String)
  | integer (n : Int)
deriving DecidableEq,Repr

def Literal.ofText : Option String → Literal
  | none => .null
  | some s => .text s

def Literal.ofInteger : Option Int → Literal
  | none => .null
  | some n => .integer n

private def sqlSpace (c : Char) : Bool := c == ' ' || (9 ≤ c.toNat && c.toNat ≤ 13)

private def signed : List Char → Bool × List Char
  | '-' :: rest => (true,rest)
  | '+' :: rest => (false,rest)
  | cs => (false,cs)

/-- PostgreSQL's reading of a quoted literal where an `integer` is expected: blanks,
a sign, digits, blanks, within 32 bits; anything else is an error. -/
def parseInteger (s : String) : Option Int :=
  let (negative,body) := signed (s.toList.dropWhile sqlSpace)
  let digits := body.takeWhile Char.isDigit
  let n := digits.foldl (fun acc c => acc * 10 + Ruby.digit c) 0
  let value := if negative then -n else n
  if digits.isEmpty || !(body.dropWhile Char.isDigit).all sqlSpace || !fitsInteger (some value) then none
  else some value

def Literal.asInteger : Literal → Except Error (Option Int)
  | .null => .ok none
  | .integer n => .ok (some n)
  | .text s =>
    match parseInteger s with
    | some n => .ok (some n)
    | none => .error .statementInvalid

def Literal.asText : Literal → Except Error (Option String)
  | .null => .ok none
  | .text s => .ok (some s)
  | .integer _ => .error .statementInvalid

/-- `a = b` is true; a comparison with NULL never is. -/
def sqlEq {β : Type} [DecidableEq β] (a b : Option β) : Bool := a.isSome && a == b

@[simp] theorem sqlEq_none {β : Type} [DecidableEq β] (a : Option β) : sqlEq a none = false := by
  cases a <;> rfl

@[simp] theorem sqlEq_some {β : Type} [DecidableEq β] (a : Option β) (b : β) : sqlEq a (some b) = true ↔ a = some b := by
  cases a <;> simp [sqlEq]

structure Joined (α : Type) where
  listing : Row α
  property : Row Named
  kind : Row Named

namespace ListingModel
variable {α : Type} (m : ListingModel α)

def keyOf (r : α) : ListingKey := ⟨m.location r,m.propertyId r,m.kindId r⟩

def joins (t : Table α) (properties kinds : Table Named) : List (Joined α) :=
  t.rows.flatMap fun row =>
    (properties.rows.filter fun p => m.propertyId row.val == some p.id).flatMap fun p =>
      (kinds.rows.filter fun k => m.kindId row.val == some k.id).map fun k => ⟨row,p,k⟩

theorem mem_joins {t : Table α} {properties kinds : Table Named} {j : Joined α} :
    j ∈ m.joins t properties kinds ↔ j.listing ∈ t.rows ∧ j.property ∈ properties.rows ∧ j.kind ∈ kinds.rows ∧
      m.propertyId j.listing.val = some j.property.id ∧ m.kindId j.listing.val = some j.kind.id := by
  obtain ⟨row,p,k⟩ := j
  simp only [joins,List.mem_flatMap,List.mem_filter,List.mem_map,beq_iff_eq]
  constructor
  · intro made
    obtain ⟨row',hr,p',⟨hp,property⟩,k',⟨hk,kind⟩,same⟩ := made
    cases same
    exact ⟨hr,hp,hk,property,kind⟩
  · intro parts
    obtain ⟨hr,hp,hk,property,kind⟩ := parts
    exact ⟨row,hr,p,⟨hp,property⟩,k,⟨hk,kind⟩,rfl⟩

end ListingModel

/-- PostgreSQL's choice of representatives and of their order. -/
abbrev Plan := DistinctOn (Row.val : Row ListingKey → ListingKey)

namespace ListingModel
variable {α : Type} (m : ListingModel α)

def selectForSearch (plan : Plan) (condition : Joined α → Bool) (joined : List (Joined α)) : List (Row ListingKey) :=
  plan.pick ((joined.filter condition).map fun j => ⟨j.listing.id,m.keyOf j.listing.val⟩)

theorem selectForSearch_keys (plan : Plan) (condition : Joined α → Bool) (joined : List (Joined α)) :
    ((m.selectForSearch plan condition joined).map Row.val).Nodup ∧
      ∀ key, key ∈ (m.selectForSearch plan condition joined).map Row.val ↔
        ∃ j ∈ joined, condition j = true ∧ m.keyOf j.listing.val = key := by
  have answer := plan.admissible ((joined.filter condition).map fun j => ⟨j.listing.id,m.keyOf j.listing.val⟩)
  refine ⟨answer.distinct,fun key => answer.mem_keys.trans ?_⟩
  constructor
  · intro answered
    obtain ⟨row,member,same⟩ := answered
    obtain ⟨j,inside,rfl⟩ := List.mem_map.mp member
    obtain ⟨present,holds⟩ := List.mem_filter.mp inside
    exact ⟨j,present,holds,same⟩
  · intro selected
    obtain ⟨j,present,holds,same⟩ := selected
    exact ⟨_,List.mem_map.mpr ⟨j,List.mem_filter.mpr ⟨present,holds⟩,rfl⟩,same⟩

def searchByName (plan : Plan) (t : Table α) (properties kinds : Table Named) (location propType kindType : Literal) :
    Except Error (List (Row ListingKey)) :=
  match location.asText,propType.asText,kindType.asText with
  | .ok l,.ok p,.ok k =>
    .ok (m.selectForSearch plan
      (fun j => sqlEq (m.location j.listing.val) l || sqlEq j.property.val.name p || sqlEq j.kind.val.name k)
      (m.joins t properties kinds))
  | _,_,_ => .error .statementInvalid

end ListingModel

def UserLookingForProperty.search (plan : Plan) (db : Db) (propType lookingFor location : Literal) :
    Except Error (List (Row ListingKey)) :=
  match propType.asInteger,lookingFor.asInteger,location.asText with
  | .ok p,.ok k,.ok l =>
    .ok (UserLookingForProperty.model.selectForSearch plan
      (fun j => sqlEq (some j.property.id) p || sqlEq (some j.kind.id) k || sqlEq j.listing.val.location l)
      (UserLookingForProperty.model.joins db.userLookingForProperties db.properties db.lookingFors))
  | _,_,_ => .error .statementInvalid

theorem UserLookingForProperty.search_eq_ok {plan : Plan} {db : Db} {propType lookingFor location : Literal}
    {rows : List (Row ListingKey)} (ok : search plan db propType lookingFor location = .ok rows) :
    ∃ p k l, propType.asInteger = .ok p ∧ lookingFor.asInteger = .ok k ∧ location.asText = .ok l ∧
      rows = UserLookingForProperty.model.selectForSearch plan
        (fun j => sqlEq (some j.property.id) p || sqlEq (some j.kind.id) k || sqlEq j.listing.val.location l)
        (UserLookingForProperty.model.joins db.userLookingForProperties db.properties db.lookingFors) := by
  unfold search at ok
  split at ok
  · rename_i p k l property kind place
    cases ok
    exact ⟨p,k,l,property,kind,place,rfl⟩
  · cases ok

def UserLookingForProperty.searchProperties (plan : Plan) (db : Db) (location propType lookingType : Literal) :
    Except Error (List (Row ListingKey)) :=
  UserLookingForProperty.model.searchByName plan db.userLookingForProperties db.properties db.lookingFors
    location propType lookingType

def UserProperty.searchProperties (plan : Plan) (db : Db) (location propType ownershipType : Literal) :
    Except Error (List (Row ListingKey)) :=
  UserProperty.model.searchByName plan db.userProperties db.properties db.ownershipTypes location propType ownershipType

end HyderabadHomes
