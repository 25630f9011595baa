import HyderabadHomes.App
import HyderabadHomes.Html.Form

/-! The edit forms of the two listing controllers against their `update` actions. The form
sends the location as `addr`, at the top level, where `create` reads it and `update` does not. -/
namespace HyderabadHomes
open Relational

/-- `collection_select` with a prompt, which Rails leaves out once there is a value. -/
def collectionSelect (options : Table Named) (value : Option Int) : Option String :=
  Html.select ((if value.isNone then [("",false)] else []) ++
    options.rows.map fun row => (toString row.id,value == some row.id))

theorem collectionSelect_none (options : Table Named) : collectionSelect options none = some "" := by
  unfold collectionSelect
  rw [Html.select_of_unmarked]
  · rfl
  · simp

theorem collectionSelect_of_refers {options : Table Named} {id : Int} (refers : Refers (some id) options) :
    collectionSelect options (some id) = some (toString id) := by
  obtain ⟨row,member,same⟩ := refers
  cases same
  refine Html.select_of_marked ?_ ?_
  · exact List.mem_append_right _ (List.mem_map.mpr ⟨row,member,by simp⟩)
  · intro option inside marked
    simp only [Option.isNone_some,Bool.false_eq_true,if_false,List.nil_append,List.mem_map] at inside
    obtain ⟨other,_,rfl⟩ := inside
    have ids : row.id = other.id := by simpa using marked
    rw [ids]

/-- A value without a row: the browser shows the first row instead. -/
theorem collectionSelect_of_missing {options : Table Named} {id : Int} (missing : ¬ Refers (some id) options) :
    collectionSelect options (some id) = options.rows.head?.map fun row => toString row.id := by
  unfold collectionSelect
  rw [Html.select_of_unmarked]
  · simp
    rfl
  · intro option inside
    simp only [Option.isNone_some,Bool.false_eq_true,if_false,List.nil_append,List.mem_map] at inside
    obtain ⟨row,member,rfl⟩ := inside
    rw [beq_eq_false_iff_ne]
    exact fun same => missing ⟨row,member,same⟩

def ReadBack (env : Env) (text : Double → String) (x : Double) : Prop :=
  castFloat env (some (Html.textField (text x))) = some x

structure EditForm (α : Type) where
  controller : ListingController α
  price : Option (α → Option Double)
  kindKey_fresh : controller.model.kindKey ∉ ["location","user_id","property_id","price"]
  location_setUserId : ∀ u r, controller.model.location (controller.model.setUserId u r) = controller.model.location r
  location_locate : ∀ x y r, controller.model.location (controller.model.locate x y r) = controller.model.location r
  price_setUserId : ∀ p ∈ price, ∀ u r, p (controller.model.setUserId u r) = p r
  price_locate : ∀ p ∈ price, ∀ x y r, p (controller.model.locate x y r) = p r
  writes_location : ∀ env, Writes (controller.model.attrAccessible env) "location" id controller.model.location
  writes_price : ∀ p ∈ price, ∀ env, Writes (controller.model.attrAccessible env) "price" (castFloat env) p

def userPropertyForm : EditForm UserProperty where
  controller := userPropertiesController
  price := none
  kindKey_fresh := by decide
  location_setUserId _ _ := rfl
  location_locate _ _ _ := rfl
  price_setUserId _ none := by cases none
  price_locate _ none := by cases none
  writes_location := UserProperty.writes_location
  writes_price _ none := by cases none

def userLookingForPropertyForm : EditForm UserLookingForProperty where
  controller := userLookingForPropertiesController
  price := some UserLookingForProperty.price
  kindKey_fresh := by decide
  location_setUserId _ _ := rfl
  location_locate _ _ _ := rfl
  price_setUserId _ shown _ _ := by cases shown; rfl
  price_locate _ shown _ _ _ := by cases shown; rfl
  writes_location := UserLookingForProperty.writes_location
  writes_price _ shown env := by
    cases shown
    refine ⟨?_,?_,?_⟩ <;>
      simp [userLookingForPropertiesController,UserLookingForProperty.model,UserLookingForProperty.attrAccessible,column]

structure Entry where
  location : String
  property : Option String
  kind : Option String
  price : String
deriving DecidableEq,Repr

namespace EditForm
variable {α : Type} (f : EditForm α)

/-- The hash of the form; the location is not part of it. -/
def attrs (e : Entry) : Attrs :=
  e.property.toList.map (fun v => ("property_id",some v)) ++
    (e.kind.toList.map (fun v => (f.controller.model.kindKey,some v)) ++
      f.price.toList.map fun _ => ("price",some e.price))

/-- Sending the form: `update` reads the id and the hash, and leaves `addr` aside. -/
def submit (env : Env) (db : Db) (user id : Int) (e : Entry) (answer : Geocoding) : Table α × Response :=
  f.controller.model.update f.controller.row env user (toString id) (f.attrs e) answer (f.controller.table db)

structure Holds (env : Env) (e : Entry) (r : α) : Prop where
  location : (f.controller.model.location r).getD "" = e.location
  property : ∀ v ∈ e.property, f.controller.model.propertyId r = castInteger (some v)
  kind : ∀ v ∈ e.kind, f.controller.model.kindId r = castInteger (some v)
  price : ∀ p ∈ f.price, p r = castFloat env (some e.price)

structure SameShown (r s : α) : Prop where
  location : f.controller.model.location r = f.controller.model.location s
  property : f.controller.model.propertyId r = f.controller.model.propertyId s
  kind : f.controller.model.kindId r = f.controller.model.kindId s
  price : ∀ p ∈ f.price, p r = p s

structure Rendered (text : Double → String) (db : Db) (r : α) (e : Entry) : Prop where
  location : e.location = Html.textField ((f.controller.model.location r).getD "")
  property : e.property = collectionSelect db.properties (f.controller.model.propertyId r)
  kind : e.kind = collectionSelect (db.catalog f.controller.kinds) (f.controller.model.kindId r)
  price : ∀ p ∈ f.price, e.price = Html.textField (((p r).map text).getD "")

/-- An accepted form stores what was entered; a rejected one, or one sent as it was
rendered, leaves what the row shows. -/
def RoundTrips (env : Env) (text : Double → String) (db : Db) (user : Int) (row : Row α) (e : Entry)
    (answer : Geocoding) : Prop :=
  ((f.submit env db user row.id e answer).2 =
      .redirect (f.controller.row row.id) (some "Property Updated Successfully.") →
    ∃ after ∈ (f.submit env db user row.id e answer).1.rows, after.id = row.id ∧
      f.controller.model.userId after.val = f.controller.model.userId row.val ∧ f.Holds env e after.val) ∧
  ((f.submit env db user row.id e answer).2 = .render (.template .edit) ∨ f.Rendered text db row.val e →
    ∃ after ∈ (f.submit env db user row.id e answer).1.rows, after.id = row.id ∧ f.SameShown after.val row.val)

def Accepted (env : Env) (user : Int) (r : α) (e : Entry) (answer : Geocoding) : Prop :=
  (f.controller.model.updated env user r (f.attrs e) answer).isSome

end EditForm

def CanShow (options : Table Named) (value : Option Int) : Prop := Refers value options ∨ options.rows = []

namespace EditForm
variable {α : Type} (f : EditForm α)

/-- An accepted form was sent with the location that is stored, and a form sent as it was
rendered shows the row's own ids and price. -/
def Faithful (env : Env) (text : Double → String) (db : Db) (user : Int) (r : α) (e : Entry) (answer : Geocoding) : Prop :=
  f.Accepted env user r e answer →
    e.location = (f.controller.model.location r).getD "" ∧
      (f.Rendered text db r e → CanShow db.properties (f.controller.model.propertyId r) ∧
        CanShow (db.catalog f.controller.kinds) (f.controller.model.kindId r) ∧
        ∀ p ∈ f.price, ∀ x ∈ p r, ReadBack env text x)

variable {f}

section Attrs
variable (e : Entry)

theorem submitted_other {key : String} (property : key ≠ "property_id") (kind : key ≠ f.controller.model.kindKey)
    (price : key ≠ "price") : submitted key (f.attrs e) = none := by
  unfold attrs
  cases e.property <;> cases e.kind <;> cases f.price <;>
    simp [submitted,Ne.symm property,Ne.symm kind,Ne.symm price]

theorem submitted_property : submitted "property_id" (f.attrs e) = e.property.map some := by
  have fresh := f.kindKey_fresh
  simp only [List.mem_cons,not_or] at fresh
  unfold attrs
  cases e.property <;> cases e.kind <;> cases f.price <;> simp [submitted,fresh]

theorem submitted_kind : submitted f.controller.model.kindKey (f.attrs e) = e.kind.map some := by
  have fresh := f.kindKey_fresh
  simp only [List.mem_cons,not_or] at fresh
  unfold attrs
  cases e.property <;> cases e.kind <;> cases f.price <;>
    simp [submitted,Ne.symm fresh.2.2.1,Ne.symm fresh.2.2.2.1]

theorem submitted_price {p : α → Option Double} (shown : p ∈ f.price) :
    submitted "price" (f.attrs e) = some (some e.price) := by
  have fresh := f.kindKey_fresh
  simp only [List.mem_cons,not_or] at fresh
  unfold attrs
  rw [show f.price = some p from shown]
  cases e.property <;> cases e.kind <;> simp [submitted]

end Attrs

structure Written (f : EditForm α) (env : Env) (user : Int) (r : α) (e : Entry) (stored : α) : Prop where
  userId : f.controller.model.userId stored = some user
  location : f.controller.model.location stored = f.controller.model.location r
  property : f.controller.model.propertyId stored =
    (e.property.map fun v => castInteger (some v)).getD (f.controller.model.propertyId r)
  kind : f.controller.model.kindId stored =
    (e.kind.map fun v => castInteger (some v)).getD (f.controller.model.kindId r)
  price : ∀ p ∈ f.price, p stored = castFloat env (some e.price)
  filled : (f.controller.model.propertyId stored).isSome ∧ (f.controller.model.kindId stored).isSome

theorem written {env : Env} {user : Int} {r stored : α} {e : Entry} {answer : Geocoding}
    (accepted : f.controller.model.updated env user r (f.attrs e) answer = some stored) :
    f.Written env user r e stored := by
  have fresh := f.kindKey_fresh
  simp only [List.mem_cons,not_or] at fresh
  obtain ⟨owner,property,kind⟩ := ListingModel.updated_ids accepted
  obtain ⟨record,assigned,saved⟩ := ListingModel.updated_eq_some.mp accepted
  obtain ⟨latitude,longitude,_,valid,_,located⟩ := saveGeocoded_stored saved
  obtain ⟨_,sameProperty,sameKind,_⟩ := ListingModel.save_stored saved
  refine ⟨?_,?_,?_,?_,?_,?_⟩
  · rw [owner,ListingModel.submittedId,submitted_other e (by decide) (Ne.symm fresh.2.1) (by decide)]
    rfl
  · rw [located,f.location_locate,assign_field (f.writes_location env) assigned,f.location_setUserId,
      submitted_other e (by decide) (Ne.symm fresh.1) (by decide)]
    rfl
  · rw [property,ListingModel.submittedId,submitted_property,Option.map_map]
    rfl
  · rw [kind,ListingModel.submittedId,submitted_kind,Option.map_map]
    rfl
  · intro p shown
    rw [located,f.price_locate p shown,assign_field (f.writes_price p shown env) assigned,submitted_price e shown]
    rfl
  · rw [sameProperty,sameKind]
    exact f.controller.model.references_valid record valid

/-- A drop-down left as it is keeps the id it was given, where it can show it. -/
theorem sent_eq_iff {options : Table Named} {held stored : Option Int} (filled : stored.isSome)
    (sent : stored = ((collectionSelect options held).map fun v => castInteger (some v)).getD held) :
    stored = held ↔ CanShow options held := by
  cases held with
  | none =>
    rw [collectionSelect_none] at sent
    rw [sent] at filled
    cases filled
  | some id =>
    by_cases refers : Refers (some id) options
    · rw [collectionSelect_of_refers refers,Option.map_some,castInteger_toString] at sent
      exact iff_of_true sent (.inl refers)
    · rw [collectionSelect_of_missing refers] at sent
      cases rows : options.rows with
      | nil =>
        rw [rows] at sent
        exact iff_of_true sent (.inr rows)
      | cons first rest =>
        rw [rows,List.head?_cons,Option.map_some,Option.map_some,castInteger_toString] at sent
        refine iff_of_false ?_ ?_
        · intro same
          exact refers ⟨first,by simp [rows],same.symm.trans sent⟩
        · intro show'
          simp [CanShow,refers,rows] at show'

theorem Written.holds_iff {env : Env} {user : Int} {r stored : α} {e : Entry} (sent : f.Written env user r e stored) :
    f.Holds env e stored ↔ e.location = (f.controller.model.location r).getD "" := by
  constructor
  · intro holds
    rw [← holds.location,sent.location]
  · intro same
    refine ⟨?_,?_,?_,sent.price⟩
    · rw [sent.location,same]
    · intro v entered
      rw [sent.property,show e.property = some v from entered]
      rfl
    · intro v entered
      rw [sent.kind,show e.kind = some v from entered]
      rfl

theorem Written.sameShown_iff {env : Env} {text : Double → String} {db : Db} {user : Int} {r stored : α} {e : Entry}
    (sent : f.Written env user r e stored) (rendered : f.Rendered text db r e) :
    f.SameShown stored r ↔ CanShow db.properties (f.controller.model.propertyId r) ∧
      CanShow (db.catalog f.controller.kinds) (f.controller.model.kindId r) ∧
      ∀ p ∈ f.price, ∀ x ∈ p r, ReadBack env text x := by
  have property := sent.property
  have kind := sent.kind
  rw [rendered.property] at property
  rw [rendered.kind] at kind
  rw [← sent_eq_iff sent.filled.1 property,← sent_eq_iff sent.filled.2 kind]
  have price : (∀ p ∈ f.price, p stored = p r) ↔ ∀ p ∈ f.price, ∀ x ∈ p r, ReadBack env text x := by
    refine forall₂_congr fun p priced => ?_
    rw [sent.price p priced,rendered.price p priced]
    cases p r with
    | none => exact iff_of_true rfl fun _ absent => nomatch absent
    | some x => simp [ReadBack]
  rw [← price]
  exact ⟨fun same => ⟨same.property,same.kind,same.price⟩,fun same => ⟨sent.location,same.1,same.2.1,same.2.2⟩⟩

/-- On a row of the requester, the form and the action agree exactly where the form is faithful. -/
theorem roundTrips_iff (env : Env) (text : Double → String) (db : Db) {user : Int} {row : Row α}
    (member : row ∈ (f.controller.table db).rows) (owner : f.controller.model.userId row.val = some user) (e : Entry)
    (answer : Geocoding) : f.RoundTrips env text db user row e answer ↔ f.Faithful env text db user row.val e answer := by
  have found : (f.controller.table db).find? (Ruby.toI (toString row.id)) = some row :=
    Table.find?_eq_some.mpr ⟨member,(Ruby.toI_toString row.id).symm⟩
  unfold RoundTrips Faithful Accepted submit
  cases result : f.controller.model.updated env user row.val (f.attrs e) answer with
  | none =>
    obtain ⟨kept,refused⟩ := ListingModel.update_of_refused f.controller.row found result
    simp only [kept,Option.isSome_none,Bool.false_eq_true,false_imp_iff,iff_true]
    refine ⟨fun accepted => absurd accepted (refused _ _),fun _ => ⟨row,member,rfl,?_⟩⟩
    exact ⟨rfl,rfl,rfl,fun _ _ => rfl⟩
  | some stored =>
    have sent := written result
    rw [ListingModel.update_of_accepted f.controller.row found result]
    simp only [Option.isSome_some,true_imp_iff,reduceCtorEq,false_or]
    rw [Table.exists_update member stored fun r => f.controller.model.userId r = f.controller.model.userId row.val ∧
      f.Holds env e r,Table.exists_update member stored fun r => f.SameShown r row.val,owner,sent.holds_iff]
    refine and_congr (and_iff_right sent.userId) ?_
    exact imp_congr_right fun rendered => sent.sameShown_iff rendered

end EditForm

/-- For both kinds of listing, on every row of the requester. -/
theorem edit_forms_round_trip_iff (env : Env) (text : Double → String) (db : Db) (user : Int) (e : Entry)
    (answer : Geocoding) :
    (∀ row ∈ db.userProperties.rows, row.val.userId = some user →
      (userPropertyForm.RoundTrips env text db user row e answer ↔
        userPropertyForm.Faithful env text db user row.val e answer)) ∧
    (∀ row ∈ db.userLookingForProperties.rows, row.val.userId = some user →
      (userLookingForPropertyForm.RoundTrips env text db user row e answer ↔
        userLookingForPropertyForm.Faithful env text db user row.val e answer)) := by
  constructor
  · intro row member owner
    exact userPropertyForm.roundTrips_iff env text db member owner e answer
  · intro row member owner
    exact userLookingForPropertyForm.roundTrips_iff env text db member owner e answer

def listed : Db :=
  {Db.empty with
    users := Table.empty.insert ⟨"user@example.com"⟩
    properties := Table.empty.insert ⟨some "Flat"⟩
    ownershipTypes := Table.empty.insert ⟨some "Rent"⟩
    lookingFors := Table.empty.insert ⟨some "Buy"⟩
    userProperties := Table.empty.insert ⟨some 1,some "Hyderabad",some 1,none,some 1,none,none⟩
    userLookingForProperties := Table.empty.insert ⟨some 1,some "Hyderabad",some 1,some 1,none,none,some ⟨0⟩⟩}

theorem edit_forms_round_trip_unedited :
    userPropertyForm.RoundTrips .production (fun _ => "0.0") listed 1
      ⟨1,⟨some 1,some "Hyderabad",some 1,none,some 1,none,none⟩⟩ ⟨"Hyderabad",some "1",some "1",""⟩
      (.accepted none none) ∧
    userLookingForPropertyForm.RoundTrips .production (fun _ => "0.0") listed 1
      ⟨1,⟨some 1,some "Hyderabad",some 1,some 1,none,none,some ⟨0⟩⟩⟩ ⟨"Hyderabad",some "1",some "1","0.0"⟩
      (.accepted none none) := by
  constructor
  · refine ((edit_forms_round_trip_iff _ _ _ _ _ _).1 _ (by decide) rfl).mpr fun _ => ⟨rfl,fun _ => ?_⟩
    exact ⟨.inl ⟨⟨1,⟨some "Flat"⟩⟩,by decide,rfl⟩,.inl ⟨⟨1,⟨some "Rent"⟩⟩,by decide,rfl⟩,fun _ priced => nomatch priced⟩
  · refine ((edit_forms_round_trip_iff _ _ _ _ _ _).2 _ (by decide) rfl).mpr fun _ => ⟨rfl,fun _ => ?_⟩
    refine ⟨.inl ⟨⟨1,⟨some "Flat"⟩⟩,by decide,rfl⟩,.inl ⟨⟨1,⟨some "Buy"⟩⟩,by decide,rfl⟩,?_⟩
    intro p priced x shown
    cases priced
    cases shown
    rfl

/-- A listing in Hyderabad is edited to lie in Secunderabad. -/
theorem edited_location_is_lost :
    ¬ userPropertyForm.RoundTrips .production (fun _ => "0.0") listed 1
      ⟨1,⟨some 1,some "Hyderabad",some 1,none,some 1,none,none⟩⟩ ⟨"Secunderabad",some "1",some "1",""⟩
      (.accepted none none) := by
  intro agree
  have faithful := (userPropertyForm.roundTrips_iff .production (fun _ => "0.0") listed (by decide) rfl _ _).mp agree
  have same := (faithful (by unfold EditForm.Accepted; decide)).1
  revert same
  decide

end HyderabadHomes
