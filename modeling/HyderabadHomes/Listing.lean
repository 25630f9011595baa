import HyderabadHomes.Http

/-! The two listing models, `UserProperty` and `UserLookingForProperty`, and the
actions their two controllers share. -/
namespace HyderabadHomes
open Relational

structure ListingModel (α : Type) where
  attrAccessible : Env → List (Attribute α)
  fresh : α
  valid : α → Bool
  fits : α → Bool
  userId : α → Option Int
  propertyId : α → Option Int
  kindId : α → Option Int
  location : α → Option String
  setUserId : Int → α → α
  setLocation : Option String → α → α
  locate : Option Double → Option Double → α → α
  kindKey : String
  userId_setUserId : ∀ u r, userId (setUserId u r) = some u
  userId_setLocation : ∀ l r, userId (setLocation l r) = userId r
  userId_locate : ∀ x y r, userId (locate x y r) = userId r
  propertyId_setUserId : ∀ u r, propertyId (setUserId u r) = propertyId r
  propertyId_setLocation : ∀ l r, propertyId (setLocation l r) = propertyId r
  propertyId_locate : ∀ x y r, propertyId (locate x y r) = propertyId r
  kindId_setUserId : ∀ u r, kindId (setUserId u r) = kindId r
  kindId_setLocation : ∀ l r, kindId (setLocation l r) = kindId r
  kindId_locate : ∀ x y r, kindId (locate x y r) = kindId r
  references_fresh : userId fresh = none ∧ propertyId fresh = none ∧ kindId fresh = none
  references_valid : ∀ r, valid r = true → (propertyId r).isSome ∧ (kindId r).isSome
  writes_userId : ∀ env, Writes (attrAccessible env) "user_id" castInteger userId
  writes_propertyId : ∀ env, Writes (attrAccessible env) "property_id" castInteger propertyId
  writes_kindId : ∀ env, Writes (attrAccessible env) kindKey castInteger kindId

namespace UserProperty

def attrAccessible (env : Env) : List (Attribute UserProperty) :=
  [column "is_current_location" fun v r => {r with isCurrentLocation := castBoolean v},
    column "latitude" fun v r => {r with latitude := castFloat env v},
    column "location" fun v r => {r with location := v},
    column "longitude" fun v r => {r with longitude := castFloat env v},
    column "ownership_type_id" fun v r => {r with ownershipTypeId := castInteger v},
    column "user_id" fun v r => {r with userId := castInteger v},
    column "property_id" fun v r => {r with propertyId := castInteger v}]

theorem writes_location (env : Env) : Writes (attrAccessible env) "location" id location :=
  ⟨by simp [attrAccessible,column],by simp [attrAccessible,column],by simp [attrAccessible,column]⟩

def fresh : UserProperty := ⟨none,none,none,none,none,none,none⟩

def valid (r : UserProperty) : Bool :=
  r.ownershipTypeId.isSome && Ruby.present r.location && r.propertyId.isSome

def model : ListingModel UserProperty where
  attrAccessible := attrAccessible
  fresh := fresh
  valid := valid
  fits := fits
  userId := userId
  propertyId := propertyId
  kindId := ownershipTypeId
  location := location
  setUserId u r := {r with userId := some u}
  setLocation l r := {r with location := l}
  locate x y r := {r with latitude := x,longitude := y}
  kindKey := "ownership_type_id"
  userId_setUserId _ _ := rfl
  userId_setLocation _ _ := rfl
  userId_locate _ _ _ := rfl
  propertyId_setUserId _ _ := rfl
  propertyId_setLocation _ _ := rfl
  propertyId_locate _ _ _ := rfl
  kindId_setUserId _ _ := rfl
  kindId_setLocation _ _ := rfl
  kindId_locate _ _ _ := rfl
  references_fresh := ⟨rfl,rfl,rfl⟩
  references_valid r ok := by
    simp only [valid,Bool.and_eq_true] at ok
    exact ⟨ok.2,ok.1.1⟩
  writes_userId env := ⟨by simp [attrAccessible,column],by simp [attrAccessible,column],by simp [attrAccessible,column]⟩
  writes_propertyId env := ⟨by simp [attrAccessible,column],by simp [attrAccessible,column],by simp [attrAccessible,column]⟩
  writes_kindId env := ⟨by simp [attrAccessible,column],by simp [attrAccessible,column],by simp [attrAccessible,column]⟩

end UserProperty

namespace UserLookingForProperty

/-- `cart_id` is whitelisted although the table has no such column. -/
def attrAccessible (env : Env) : List (Attribute UserLookingForProperty) :=
  [column "looking_for_id" fun v r => {r with lookingForId := castInteger v},
    column "latitude" fun v r => {r with latitude := castFloat env v},
    column "location" fun v r => {r with location := v},
    column "longitude" fun v r => {r with longitude := castFloat env v},
    column "user_id" fun v r => {r with userId := castInteger v},
    column "property_id" fun v r => {r with propertyId := castInteger v},
    ⟨"cart_id",fun _ _ => .error .unknownAttribute⟩,
    column "price" fun v r => {r with price := castFloat env v}]

theorem writes_location (env : Env) : Writes (attrAccessible env) "location" id location :=
  ⟨by simp [attrAccessible,column],by simp [attrAccessible,column],by simp [attrAccessible,column]⟩

def fresh : UserLookingForProperty := ⟨none,none,none,none,none,none,none⟩

def valid (r : UserLookingForProperty) : Bool :=
  r.lookingForId.isSome && r.location.any (fun s => 3 ≤ s.length && s.length ≤ 150) &&
    Ruby.present r.location && r.propertyId.isSome

def model : ListingModel UserLookingForProperty where
  attrAccessible := attrAccessible
  fresh := fresh
  valid := valid
  fits := fits
  userId := userId
  propertyId := propertyId
  kindId := lookingForId
  location := location
  setUserId u r := {r with userId := some u}
  setLocation l r := {r with location := l}
  locate x y r := {r with latitude := x,longitude := y}
  kindKey := "looking_for_id"
  userId_setUserId _ _ := rfl
  userId_setLocation _ _ := rfl
  userId_locate _ _ _ := rfl
  propertyId_setUserId _ _ := rfl
  propertyId_setLocation _ _ := rfl
  propertyId_locate _ _ _ := rfl
  kindId_setUserId _ _ := rfl
  kindId_setLocation _ _ := rfl
  kindId_locate _ _ _ := rfl
  references_fresh := ⟨rfl,rfl,rfl⟩
  references_valid r ok := by
    simp only [valid,Bool.and_eq_true] at ok
    exact ⟨ok.2,ok.1.1.1⟩
  writes_userId env := ⟨by simp [attrAccessible,column],by simp [attrAccessible,column],by simp [attrAccessible,column]⟩
  writes_propertyId env := ⟨by simp [attrAccessible,column],by simp [attrAccessible,column],by simp [attrAccessible,column]⟩
  writes_kindId env := ⟨by simp [attrAccessible,column],by simp [attrAccessible,column],by simp [attrAccessible,column]⟩

end UserLookingForProperty

namespace ListingModel
variable {α : Type} (m : ListingModel α)

def new (env : Env) (attrs : Attrs) : Except Error α := assign (m.attrAccessible env) env.strict m.fresh attrs

def save (answer : Geocoding) (record : α) : Saved α := saveGeocoded m.valid m.fits m.locate answer record

/-- The owner and the location are stamped over whatever the hash said. There is no
template for a rejected record. -/
def create (path : Int → Path) (env : Env) (currentUser : Int) (attrs : Attrs) (addr : Option String)
    (answer : Geocoding) (t : Table α) : Table α × Response :=
  match m.new env attrs with
  | .error e => (t,.error e)
  | .ok record =>
    match m.save answer (m.setLocation addr (m.setUserId currentUser record)) with
    | .stored stored => (t.insert stored,.redirect (path (t.seq+1)) (some "Property Created successfully"))
    | .rejected => (t,.error .missingTemplate)
    | .raised e => (t,.error e)

/-- The row is looked up by id alone, and the owner is stamped before the hash is assigned. -/
def update (path : Int → Path) (env : Env) (currentUser : Int) (id : String) (attrs : Attrs)
    (answer : Geocoding) (t : Table α) : Table α × Response :=
  match t.find? (Ruby.toI id) with
  | none => (t,.error .recordNotFound)
  | some row =>
    match assign (m.attrAccessible env) env.strict (m.setUserId currentUser row.val) attrs with
    | .error e => (t,.error e)
    | .ok record =>
      match m.save answer record with
      | .stored stored =>
        (t.update row.id fun _ => stored,.redirect (path row.id) (some "Property Updated Successfully."))
      | .rejected => (t,.render (.template .edit))
      | .raised e => (t,.error e)

def destroy (index : Path) (id : String) (t : Table α) : Table α × Response :=
  match t.find? (Ruby.toI id) with
  | none => (t,.error .recordNotFound)
  | some row => (t.delete row.id,.redirect index none)

/-- The id a hash submits under a key, cast, and the given id where it submits none. -/
def submittedId (key : String) (attrs : Attrs) (held : Option Int) : Option Int :=
  ((submitted key attrs).map castInteger).getD held

variable {m}

theorem save_stored {answer : Geocoding} {record stored : α} (ok : m.save answer record = .stored stored) :
    m.userId stored = m.userId record ∧ m.propertyId stored = m.propertyId record ∧
      m.kindId stored = m.kindId record ∧ m.valid record = true := by
  obtain ⟨latitude,longitude,_,accepted,_,rfl⟩ := saveGeocoded_stored ok
  exact ⟨m.userId_locate _ _ _,m.propertyId_locate _ _ _,m.kindId_locate _ _ _,accepted⟩

def created (m : ListingModel α) (env : Env) (currentUser : Int) (attrs : Attrs) (addr : Option String)
    (answer : Geocoding) : Option α :=
  (m.new env attrs).toOption.bind fun record =>
    (m.save answer (m.setLocation addr (m.setUserId currentUser record))).record?

def updated (m : ListingModel α) (env : Env) (currentUser : Int) (held : α) (attrs : Attrs)
    (answer : Geocoding) : Option α :=
  (assign (m.attrAccessible env) env.strict (m.setUserId currentUser held) attrs).toOption.bind fun record =>
    (m.save answer record).record?

theorem created_ids {env : Env} {currentUser : Int} {attrs : Attrs} {addr : Option String} {answer : Geocoding}
    {stored : α} (ok : m.created env currentUser attrs addr answer = some stored) :
    m.userId stored = some currentUser ∧ m.propertyId stored = submittedId "property_id" attrs none ∧
      m.kindId stored = submittedId m.kindKey attrs none := by
  unfold created at ok
  cases assigned : m.new env attrs with
  | error e => simp [assigned,Except.toOption] at ok
  | ok record =>
    rw [assigned] at ok
    obtain ⟨owner,property,kind,_⟩ := save_stored (Saved.record?_eq_some.mp ok)
    refine ⟨?_,?_,?_⟩
    · rw [owner,m.userId_setLocation,m.userId_setUserId]
    · rw [property,m.propertyId_setLocation,m.propertyId_setUserId,assign_field (m.writes_propertyId env) assigned,
        m.references_fresh.2.1]
      rfl
    · rw [kind,m.kindId_setLocation,m.kindId_setUserId,assign_field (m.writes_kindId env) assigned,
        m.references_fresh.2.2]
      rfl

theorem updated_ids {env : Env} {currentUser : Int} {held : α} {attrs : Attrs} {answer : Geocoding} {stored : α}
    (ok : m.updated env currentUser held attrs answer = some stored) :
    m.userId stored = submittedId "user_id" attrs (some currentUser) ∧
      m.propertyId stored = submittedId "property_id" attrs (m.propertyId held) ∧
      m.kindId stored = submittedId m.kindKey attrs (m.kindId held) := by
  unfold updated at ok
  cases assigned : assign (m.attrAccessible env) env.strict (m.setUserId currentUser held) attrs with
  | error e => simp [assigned,Except.toOption] at ok
  | ok record =>
    rw [assigned] at ok
    obtain ⟨owner,property,kind,_⟩ := save_stored (Saved.record?_eq_some.mp ok)
    refine ⟨?_,?_,?_⟩
    · rw [owner,assign_field (m.writes_userId env) assigned,m.userId_setUserId]
      rfl
    · rw [property,assign_field (m.writes_propertyId env) assigned,m.propertyId_setUserId]
      rfl
    · rw [kind,assign_field (m.writes_kindId env) assigned,m.kindId_setUserId]
      rfl

theorem create_table (path : Int → Path) (env : Env) (currentUser : Int) (attrs : Attrs) (addr : Option String)
    (answer : Geocoding) (t : Table α) :
    (m.create path env currentUser attrs addr answer t).1 =
      ((m.created env currentUser attrs addr answer).map t.insert).getD t := by
  unfold create created
  cases m.new env attrs with
  | error e => rfl
  | ok record =>
    simp only [Except.toOption,Option.bind_some]
    cases m.save answer (m.setLocation addr (m.setUserId currentUser record)) <;> rfl

theorem update_table (path : Int → Path) (env : Env) (currentUser : Int) (id : String) (attrs : Attrs)
    (answer : Geocoding) (t : Table α) :
    (m.update path env currentUser id attrs answer t).1 =
      t.rewrite (Ruby.toI id) fun row => m.updated env currentUser row.val attrs answer := by
  unfold update Table.rewrite
  cases t.find? (Ruby.toI id) with
  | none => rfl
  | some row =>
    unfold updated
    cases assigned : assign (m.attrAccessible env) env.strict (m.setUserId currentUser row.val) attrs with
    | error e => simp [assigned,Except.toOption]
    | ok record =>
      cases saved : m.save answer record <;> simp [assigned,saved,Except.toOption,Saved.record?]

theorem updated_eq_some {env : Env} {currentUser : Int} {held : α} {attrs : Attrs} {answer : Geocoding} {stored : α} :
    m.updated env currentUser held attrs answer = some stored ↔
      ∃ record, assign (m.attrAccessible env) env.strict (m.setUserId currentUser held) attrs = .ok record ∧
        m.save answer record = .stored stored := by
  unfold updated
  cases assign (m.attrAccessible env) env.strict (m.setUserId currentUser held) attrs with
  | error e => simp [Except.toOption]
  | ok record => simp [Except.toOption,Saved.record?_eq_some]

theorem update_of_accepted (path : Int → Path) {env : Env} {currentUser : Int} {id : String} {attrs : Attrs}
    {answer : Geocoding} {t : Table α} {row : Row α} {stored : α} (found : t.find? (Ruby.toI id) = some row)
    (accepted : m.updated env currentUser row.val attrs answer = some stored) :
    m.update path env currentUser id attrs answer t =
      (t.update row.id fun _ => stored,.redirect (path row.id) (some "Property Updated Successfully.")) := by
  obtain ⟨record,assigned,saved⟩ := updated_eq_some.mp accepted
  simp only [update,found,assigned,saved]

theorem update_of_refused (path : Int → Path) {env : Env} {currentUser : Int} {id : String} {attrs : Attrs}
    {answer : Geocoding} {t : Table α} {row : Row α} (found : t.find? (Ruby.toI id) = some row)
    (refused : m.updated env currentUser row.val attrs answer = none) :
    (m.update path env currentUser id attrs answer t).1 = t ∧
      ∀ target notice, (m.update path env currentUser id attrs answer t).2 ≠ .redirect target notice := by
  unfold updated at refused
  unfold update
  simp only [found]
  cases assigned : assign (m.attrAccessible env) env.strict (m.setUserId currentUser row.val) attrs with
  | error e => simp
  | ok record =>
    rw [assigned] at refused
    cases saved : m.save answer record with
    | stored stored => simp [Except.toOption,saved,Saved.record?] at refused
    | rejected => simp [saved]
    | raised e => simp [saved]

theorem destroy_table (index : Path) (id : String) (t : Table α) :
    (destroy index id t).1 = t.delete (Ruby.toI id) := by
  unfold destroy
  cases found : t.find? (Ruby.toI id) with
  | none => exact (Table.delete_missing found).symm
  | some row => simp only [(Table.find?_eq_some.mp found).2]

end ListingModel
end HyderabadHomes
