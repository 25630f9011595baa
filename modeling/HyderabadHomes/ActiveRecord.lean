import HyderabadHomes.Ruby
import HyderabadHomes.Schema

/-! Mass assignment and saving, as Rails 3.2 performs them.
A parameter is a string or nil: every value a column can take is the cast of one. -/
namespace HyderabadHomes

inductive Error
  | recordNotFound
  | unknownAttribute
  | massAssignment
  | statementInvalid
  | missingTemplate
  | noMethod
  | routing
  | actionNotFound
  | external
deriving DecidableEq,Repr

abbrev Attrs := List (String × Option String)

/-- What the deployment fixes: whether attributes outside the whitelist raise
(`mass_assignment_sanitizer`), PostgreSQL's `lower` and Ruby's `String#to_f`. -/
structure Env where
  strict : Bool
  lower : String → String
  toF : String → Double

/-- The production settings over an ASCII database. -/
def Env.production : Env := ⟨false,fun s => String.ofList (s.toList.map Char.toLower),fun _ => ⟨0⟩⟩

def castInteger (value : Option String) : Option Int := (Ruby.presence value).map Ruby.toI

def castFloat (env : Env) (value : Option String) : Option Double := (Ruby.presence value).map env.toF

def castBoolean (value : Option String) : Option Bool :=
  (Ruby.presence value).map (fun s => s ∈ ["1","t","T","true","TRUE"])

theorem castInteger_of_filled {s : String} (filled : Ruby.blank s = false) : castInteger (some s) = some (Ruby.toI s) := by
  simp [castInteger,Ruby.presence,filled]

theorem castInteger_toString (id : Int) : castInteger (some (toString id)) = some id := by
  rw [castInteger_of_filled (Ruby.blank_toString id),Ruby.toI_toString]

structure Attribute (α : Type) where
  name : String
  write : Option String → α → Except Error α

def column {α : Type} (name : String) (set : Option String → α → α) : Attribute α :=
  ⟨name,fun value record => .ok (set value record)⟩

/-- `assign_attributes`: keys outside the whitelist raise or are dropped. -/
def assign {α : Type} (accessible : List (Attribute α)) (strict : Bool) (record : α) : Attrs → Except Error α
  | [] => .ok record
  | (key,value) :: rest =>
    match accessible.find? (fun a => a.name == key) with
    | none => if strict then .error .massAssignment else assign accessible strict record rest
    | some a =>
      match a.write value record with
      | .error e => .error e
      | .ok next => assign accessible strict next rest

/-- The value a hash gives a key, the last one where the key is repeated. -/
def submitted (key : String) : Attrs → Option (Option String)
  | [] => none
  | (k,value) :: rest => (submitted key rest).or (if k = key then some value else none)

structure Writes {α β : Type} (accessible : List (Attribute α)) (key : String)
    (cast : Option String → β) (proj : α → β) : Prop where
  known : ∃ a ∈ accessible, a.name = key
  hit : ∀ a ∈ accessible, a.name = key → ∀ value r next, a.write value r = .ok next → proj next = cast value
  miss : ∀ a ∈ accessible, a.name ≠ key → ∀ value r next, a.write value r = .ok next → proj next = proj r

theorem Writes.comp {α β γ : Type} {accessible : List (Attribute α)} {key : String} {cast : Option String → β}
    {proj : α → β} (writes : Writes accessible key cast proj) (g : β → γ) :
    Writes accessible key (fun value => g (cast value)) (fun r => g (proj r)) where
  known := writes.known
  hit a member name value r next wrote := congrArg g (writes.hit a member name value r next wrote)
  miss a member name value r next wrote := congrArg g (writes.miss a member name value r next wrote)

/-- A field after mass assignment: what the hash submits for it, or what it held. -/
theorem assign_field {α β : Type} {accessible : List (Attribute α)} {key : String}
    {cast : Option String → β} {proj : α → β} (writes : Writes accessible key cast proj) {strict : Bool}
    {record result : α} {attrs : Attrs} (ok : assign accessible strict record attrs = .ok result) :
    proj result = ((submitted key attrs).map cast).getD (proj record) := by
  induction attrs generalizing record with
  | nil =>
    cases ok
    rfl
  | cons head rest ih =>
    obtain ⟨k,value⟩ := head
    simp only [assign] at ok
    cases found : accessible.find? (fun a => a.name == k) with
    | none =>
      have other : k ≠ key := by
        intro same
        obtain ⟨a,member,name⟩ := writes.known
        have := List.find?_eq_none.mp found a member
        simp [name,same] at this
      simp only [found] at ok
      split at ok
      · cases ok
      · simp [ih ok,submitted,other]
    | some a =>
      have member := List.mem_of_find?_eq_some found
      have name : a.name = k := by simpa using List.find?_some found
      simp only [found] at ok
      cases wrote : a.write value record with
      | error e => simp [wrote] at ok
      | ok next =>
        simp only [wrote] at ok
        rw [ih ok]
        by_cases same : k = key
        · have value_eq := writes.hit a member (name.trans same) value record next wrote
          cases later : submitted key rest <;> simp [submitted,same,later,value_eq]
        · have kept := writes.miss a member (fun h => same (name.symm.trans h)) value record next wrote
          cases later : submitted key rest <;> simp [submitted,same,later,kept]

inductive Geocoding
  | raised
  | rejected
  | accepted (latitude longitude : Option Double)
deriving DecidableEq,Repr

inductive Saved (α : Type)
  | stored (record : α)
  | rejected
  | raised (e : Error)
deriving DecidableEq,Repr

def Saved.record? {α : Type} : Saved α → Option α
  | .stored record => some record
  | _ => none

theorem Saved.record?_eq_some {α : Type} {saved : Saved α} {record : α} :
    saved.record? = some record ↔ saved = .stored record := by
  cases saved <;> simp [record?]

/-- `save` on a geocoded record: the services are asked during validation, and the
database checks its column limits when the accepted record is written. -/
def saveGeocoded {α : Type} (valid fits : α → Bool) (locate : Option Double → Option Double → α → α)
    (answer : Geocoding) (record : α) : Saved α :=
  match answer with
  | .raised => .raised .external
  | .rejected => .rejected
  | .accepted latitude longitude =>
    if valid record then
      if fits (locate latitude longitude record) then .stored (locate latitude longitude record)
      else .raised .statementInvalid
    else .rejected

theorem saveGeocoded_stored {α : Type} {valid fits : α → Bool} {locate : Option Double → Option Double → α → α}
    {answer : Geocoding} {record stored : α} (ok : saveGeocoded valid fits locate answer record = .stored stored) :
    ∃ latitude longitude, answer = .accepted latitude longitude ∧ valid record = true ∧
      fits stored = true ∧ stored = locate latitude longitude record := by
  unfold saveGeocoded at ok
  cases answer with
  | raised => cases ok
  | rejected => cases ok
  | accepted latitude longitude =>
    simp only at ok
    split at ok
    · rename_i accepted
      split at ok
      · rename_i fit
        cases ok
        exact ⟨latitude,longitude,rfl,accepted,fit,rfl⟩
      · cases ok
    · cases ok

theorem saveGeocoded_of_valid {α : Type} {valid fits : α → Bool} {locate : Option Double → Option Double → α → α}
    {latitude longitude : Option Double} {record : α} (accepted : valid record = true) :
    saveGeocoded valid fits locate (.accepted latitude longitude) record =
      if fits (locate latitude longitude record) then .stored (locate latitude longitude record)
      else .raised .statementInvalid := by
  simp [saveGeocoded,accepted]

theorem saveGeocoded_of_fits {α : Type} {valid fits : α → Bool} {locate : Option Double → Option Double → α → α}
    {latitude longitude : Option Double} {record : α} (accepted : valid record = true)
    (fit : fits (locate latitude longitude record) = true) (e : Error) :
    saveGeocoded valid fits locate (.accepted latitude longitude) record ≠ .raised e := by
  rw [saveGeocoded_of_valid accepted,if_pos fit]
  exact fun raised => nomatch raised

end HyderabadHomes
