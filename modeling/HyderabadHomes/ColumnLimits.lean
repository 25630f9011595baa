import HyderabadHomes.Account
import HyderabadHomes.Catalog
import HyderabadHomes.Listing

/-! The validations of the models against the column limits of the schema. Most limits have no
validation: what a model accepts can be stored exactly where the values that it submits to
those columns fit them. -/
namespace HyderabadHomes
open Relational

structure BoundedColumn {α : Type} (accessible : List (Attribute α)) where
  key : String
  check : Option String → Bool
  holds : α → Bool
  writes : Writes accessible key check holds

namespace BoundedColumn
variable {α : Type} {accessible : List (Attribute α)}

def string (limit : Nat) {key : String} {proj : α → Option String} (writes : Writes accessible key id proj) :
    BoundedColumn accessible :=
  ⟨key,fitsString limit,fun r => fitsString limit (proj r),writes.comp (fitsString limit)⟩

def required (limit : Nat) {key : String} {proj : α → Option String} (writes : Writes accessible key id proj) :
    BoundedColumn accessible :=
  ⟨key,fun value => value.any (fun s => s.length ≤ limit),fun r => (proj r).any (fun s => s.length ≤ limit),
    writes.comp fun value => value.any (fun s => s.length ≤ limit)⟩

def integer {key : String} {proj : α → Option Int} (writes : Writes accessible key castInteger proj) :
    BoundedColumn accessible :=
  ⟨key,fun value => fitsInteger (castInteger value),fun r => fitsInteger (proj r),writes.comp fitsInteger⟩

def strings (texts : List (String × Nat × (α → Option String)))
    (writes : ∀ text ∈ texts, Writes accessible text.1 id text.2.2) : List (BoundedColumn accessible) :=
  texts.attach.map fun text => .string text.1.2.1 (writes text.1 text.2)

theorem strings_hold_iff {texts : List (String × Nat × (α → Option String))}
    (writes : ∀ text ∈ texts, Writes accessible text.1 id text.2.2) (r : α) :
    (∀ c ∈ strings texts writes, c.holds r = true) ↔ ∀ text ∈ texts, fitsString text.2.1 (text.2.2 r) = true := by
  constructor
  · intro held text member
    exact held _ (List.mem_map.mpr ⟨⟨text,member⟩,List.mem_attach _ _,rfl⟩)
  · intro fit c member
    obtain ⟨text,_,rfl⟩ := List.mem_map.mp member
    exact fit text.1 text.2

/-- After mass assignment, a column that held what it had holds what the hash submits for it. -/
theorem holds_iff (c : BoundedColumn accessible) {strict : Bool} {base record : α} {attrs : Attrs}
    (assigned : assign accessible strict base attrs = .ok record) (held : c.holds base = true) :
    c.holds record = true ↔ ∀ value, submitted c.key attrs = some value → c.check value = true := by
  rw [assign_field c.writes assigned]
  cases submitted c.key attrs with
  | none => simp [held]
  | some value => simp

end BoundedColumn

/-- A model, as a hash is assigned to a record and the record saved: `prepare` runs before the
validations, and `unguarded` are the columns whose limit no validation enforces. -/
structure LimitedModel (α : Type) where
  attrAccessible : List (Attribute α)
  fresh : α
  prepare : α → α
  valid : α → Bool
  fits : α → Bool
  save : α → Saved α
  unguarded : List (BoundedColumn attrAccessible)
  holds_fresh : ∀ c ∈ unguarded, c.holds fresh = true
  holds_of_fits : ∀ r, fits r = true → ∀ c ∈ unguarded, c.holds r = true
  fits_prepare_iff : ∀ r, valid (prepare r) = true → (fits (prepare r) = true ↔ ∀ c ∈ unguarded, c.holds r = true)
  save_of_fits : ∀ r, valid r = true → fits r = true → ∀ e, save r ≠ .raised e

namespace LimitedModel
variable {α : Type} (m : LimitedModel α)

inductive Base
  | new
  | stored (row : α) (fits : m.fits row = true)

def Base.record {m : LimitedModel α} : m.Base → α
  | .new => m.fresh
  | .stored row _ => row

theorem Base.holds {m : LimitedModel α} (base : m.Base) : ∀ c ∈ m.unguarded, c.holds base.record = true := by
  cases base with
  | new => exact m.holds_fresh
  | stored row fits => exact m.holds_of_fits row fits

def Accepts (strict : Bool) (base : m.Base) (attrs : List (String × String)) (record : α) : Prop :=
  assign m.attrAccessible strict base.record (attrs.map fun pair => (pair.1,some pair.2)) = .ok record ∧
    m.valid (m.prepare record) = true

def Storable (strict : Bool) (base : m.Base) (attrs : List (String × String)) : Prop :=
  ∀ record, m.Accepts strict base attrs record →
    m.fits (m.prepare record) = true ∧ ∀ e, m.save (m.prepare record) ≠ .raised e

def Within (strict : Bool) (base : m.Base) (attrs : List (String × String)) : Prop :=
  ∀ record, m.Accepts strict base attrs record → ∀ c ∈ m.unguarded, ∀ value,
    submitted c.key (attrs.map fun pair => (pair.1,some pair.2)) = some value → c.check value = true

variable {m}

theorem storable_iff (strict : Bool) (base : m.Base) (attrs : List (String × String)) :
    m.Storable strict base attrs ↔ m.Within strict base attrs := by
  refine forall₂_congr fun record accepts => ?_
  obtain ⟨assigned,valid⟩ := accepts
  have columns : m.fits (m.prepare record) = true ↔ ∀ c ∈ m.unguarded, ∀ value,
      submitted c.key (attrs.map fun pair => (pair.1,some pair.2)) = some value → c.check value = true := by
    rw [m.fits_prepare_iff record valid]
    exact forall₂_congr fun c member => c.holds_iff assigned (base.holds c member)
  rw [← columns]
  exact and_iff_left_of_imp fun fits => m.save_of_fits _ valid fits

def ofColumns (accessible : List (Attribute α)) (fresh : α) (valid fits : α → Bool) (save : α → Saved α)
    (unguarded : List (BoundedColumn accessible)) (fits_fresh : fits fresh = true)
    (holds_of_fits : ∀ r, fits r = true → ∀ c ∈ unguarded, c.holds r = true)
    (fits_of_holds : ∀ r, valid r = true → (∀ c ∈ unguarded, c.holds r = true) → fits r = true)
    (save_of_fits : ∀ r, valid r = true → fits r = true → ∀ e, save r ≠ .raised e) : LimitedModel α where
  attrAccessible := accessible
  fresh := fresh
  prepare := id
  valid := valid
  fits := fits
  save := save
  unguarded := unguarded
  holds_fresh := holds_of_fits fresh fits_fresh
  holds_of_fits := holds_of_fits
  fits_prepare_iff r accepted := ⟨holds_of_fits r,fits_of_holds r accepted⟩
  save_of_fits := save_of_fits

end LimitedModel

section Models
variable (env : Env) (latitude longitude : Option Double)

def UserProperty.limits : LimitedModel UserProperty :=
  .ofColumns (attrAccessible env) fresh valid fits (model.save (.accepted latitude longitude))
    [.string stringLimit (writes_location env),.integer (model.writes_userId env),
      .integer (model.writes_propertyId env),.integer (model.writes_kindId env)]
    (by decide)
    (fun r => by simp [fits,BoundedColumn.string,BoundedColumn.integer,model])
    (fun r _ => by simp [fits,BoundedColumn.string,BoundedColumn.integer,model])
    (fun _ valid fits => saveGeocoded_of_fits valid fits)

theorem UserLookingForProperty.location_of_valid {r : UserLookingForProperty} (accepted : valid r = true) :
    fitsString stringLimit r.location = true := by
  simp only [valid,Bool.and_eq_true] at accepted
  obtain ⟨⟨⟨_,within⟩,_⟩,_⟩ := accepted
  cases held : r.location with
  | none => rfl
  | some s =>
    simp only [held,Option.any_some,Bool.and_eq_true,decide_eq_true_eq] at within
    simp only [fitsString_iff,Option.getD_some,stringLimit]
    omega

def UserLookingForProperty.limits : LimitedModel UserLookingForProperty :=
  .ofColumns (attrAccessible env) fresh valid fits (model.save (.accepted latitude longitude))
    [.integer (model.writes_userId env),.integer (model.writes_propertyId env),.integer (model.writes_kindId env)]
    (by decide)
    (fun r => by simp [fits,BoundedColumn.integer,model])
    (fun r accepted => by simp [fits,location_of_valid accepted,BoundedColumn.integer,model])
    (fun _ valid fits => saveGeocoded_of_fits valid fits)

def Profile.textColumns : List (String × Nat × (Profile → Option String)) :=
  [("last_name",stringLimit,lastName),("dob",stringLimit,dob),("gender",stringLimit,gender),
    ("mobile_number",stringLimit,mobileNumber),("alternate_number",stringLimit,alternateNumber),
    ("work_location",stringLimit,workLocation),("employer",stringLimit,employer)]

theorem Profile.writes_text : ∀ text ∈ textColumns, Writes (attrAccessible env) text.1 id text.2.2 := by
  simp only [textColumns,List.forall_mem_cons]
  refine ⟨?_,?_,?_,?_,?_,?_,?_,fun _ absent => nomatch absent⟩ <;>
    exact ⟨by simp [attrAccessible,column],by simp [attrAccessible,column],by simp [attrAccessible,column]⟩

theorem Profile.firstName_of_valid {r : Profile} (accepted : valid r = true) :
    fitsString stringLimit r.firstName = true := by
  simp only [valid,validFirstName,Bool.and_eq_true] at accepted
  obtain ⟨⟨⟨⟨⟨⟨_,within⟩,_⟩,_⟩,_⟩,_⟩,_⟩ := accepted
  cases held : r.firstName with
  | none => rfl
  | some s =>
    simp only [held,Option.any_some,Bool.and_eq_true,decide_eq_true_eq] at within
    simp only [fitsString_iff,Option.getD_some,stringLimit]
    omega

theorem Profile.fits_iff_columns (r : Profile) : fits r = true ↔ fitsString stringLimit r.firstName = true ∧
    fitsInteger r.userId = true ∧ ∀ text ∈ textColumns, fitsString text.2.1 (text.2.2 r) = true := by
  simp only [fits,textColumns,List.all_cons,List.all_nil,Bool.and_true,Bool.and_eq_true,List.forall_mem_cons,
    List.not_mem_nil,false_imp_iff,implies_true,and_true]
  tauto

theorem Profile.unguarded_hold_iff (r : Profile) :
    (∀ c ∈ BoundedColumn.integer (writes_userId env) :: BoundedColumn.strings textColumns (writes_text env),
      c.holds r = true) ↔
    fitsInteger r.userId = true ∧ ∀ text ∈ textColumns, fitsString text.2.1 (text.2.2 r) = true := by
  rw [List.forall_mem_cons,BoundedColumn.strings_hold_iff]
  rfl

def Profile.limits : LimitedModel Profile :=
  .ofColumns (attrAccessible env) fresh valid fits (save (.accepted latitude longitude))
    (.integer (writes_userId env) :: BoundedColumn.strings textColumns (writes_text env))
    (by decide)
    (fun r fit => (unguarded_hold_iff env r).mpr ((fits_iff_columns r).mp fit).2)
    (fun r accepted held =>
      (fits_iff_columns r).mpr ⟨firstName_of_valid accepted,(unguarded_hold_iff env r).mp held⟩)
    (fun _ valid fits => saveGeocoded_of_fits valid fits)

end Models

theorem Named.writes_name : Writes attrAccessible "name" id name :=
  ⟨by simp [attrAccessible,column],by simp [attrAccessible,column],by simp [attrAccessible,column]⟩

def Named.limits (env : Env) (t : Table Named) (self : Option Int) : LimitedModel Named :=
  .ofColumns attrAccessible fresh (fun r => !taken env t self r.name) fits (save env t self)
    [.string stringLimit writes_name] (by decide) (fun r => by simp [fits,BoundedColumn.string])
    (fun r _ => by simp [fits,BoundedColumn.string])
    (fun r free fits e => by simp_all [save])

namespace Administrator

def textColumns : List (String × Nat × (Administrator → Option String)) :=
  [("first_name",25,firstName),("middle_name",25,middleName),("last_name",25,lastName),
    ("mobile_number",15,mobileNumber)]

theorem writes_text : ∀ text ∈ textColumns, Writes attrAccessible text.1 id text.2.2 := by
  simp only [textColumns,List.forall_mem_cons]
  refine ⟨?_,?_,?_,?_,fun _ absent => nomatch absent⟩ <;>
    exact ⟨by simp [attrAccessible,column],by simp [attrAccessible,column],by simp [attrAccessible,column]⟩

theorem writes_status : Writes attrAccessible "status" id status :=
  ⟨by simp [attrAccessible,column],by simp [attrAccessible,column],by simp [attrAccessible,column]⟩

theorem writes_role : Writes attrAccessible "role" id role :=
  ⟨by simp [attrAccessible,column],by simp [attrAccessible,column],by simp [attrAccessible,column]⟩

theorem writes_email : Writes attrAccessible "email" (fun value => value.getD "") email :=
  ⟨by simp [attrAccessible,column],by simp [attrAccessible,column],by simp [attrAccessible,column]⟩

def normalEmailFits (email : String) : Bool := (Ruby.strip (Ruby.downcase email)).length ≤ stringLimit

def columns : List (BoundedColumn attrAccessible) :=
  ⟨"email",fun value => normalEmailFits (value.getD ""),fun r => normalEmailFits r.email,writes_email.comp normalEmailFits⟩ ::
    .required 10 writes_status :: .required 20 writes_role :: BoundedColumn.strings textColumns writes_text

theorem columns_hold_iff (r : Administrator) : (∀ c ∈ columns, c.holds r = true) ↔
    normalEmailFits r.email = true ∧ r.status.any (fun s => s.length ≤ 10) = true ∧
      r.role.any (fun s => s.length ≤ 20) = true ∧
      ∀ text ∈ textColumns, fitsString text.2.1 (text.2.2 r) = true := by
  simp only [columns,List.forall_mem_cons,BoundedColumn.strings_hold_iff]
  rfl

/-- The one column that may not be null and has no default is set in what the model accepts. -/
theorem fits_normalize_iff (r : Administrator) (accepted : (normalize r).valid = true) :
    (normalize r).fits = true ↔ ∀ c ∈ columns, c.holds r = true := by
  have mobile : ∃ s, r.mobileNumber = some s := by
    simp only [valid,normalize,Bool.and_eq_true] at accepted
    cases number : r.mobileNumber with
    | none =>
      rw [number] at accepted
      cases accepted.2
    | some s => exact ⟨s,rfl⟩
  obtain ⟨s,number⟩ := mobile
  rw [columns_hold_iff]
  simp [fits,normalize,normalEmailFits,textColumns,fitsString,number,and_assoc]

theorem holds_of_fits (r : Administrator) (fit : r.fits = true) : ∀ c ∈ columns, c.holds r = true := by
  simp only [fits,Bool.and_eq_true,decide_eq_true_eq] at fit
  obtain ⟨⟨⟨⟨email,status⟩,role⟩,names⟩,mobile⟩ := fit
  refine (columns_hold_iff r).mpr ⟨?_,status,role,?_⟩
  · have shorter := Ruby.length_strip_downcase_le r.email
    simp only [normalEmailFits,decide_eq_true_eq]
    omega
  · have number : fitsString 15 r.mobileNumber = true := by
      cases held : r.mobileNumber with
      | none => rfl
      | some s =>
        rw [held] at mobile
        exact mobile
    simp only [List.all_cons,List.all_nil,Bool.and_true,Bool.and_eq_true] at names
    simp [textColumns,names,number]

def limits (devise : Administrator → Bool) : LimitedModel Administrator where
  attrAccessible := attrAccessible
  fresh := fresh
  prepare := normalize
  valid r := r.valid && devise r
  fits := fits
  save := save devise
  unguarded := columns
  holds_fresh := (columns_hold_iff fresh).mpr (by decide)
  holds_of_fits := holds_of_fits
  fits_prepare_iff r accepted := fits_normalize_iff r (Bool.and_eq_true_iff.mp accepted).1
  save_of_fits r accepted fit e := by
    rw [save,if_pos accepted,if_pos fit]
    exact fun raised => nomatch raised

end Administrator

/-- Every model stores what its validations accept, exactly where the accepted hashes keep to
the limits of the columns. -/
theorem accepted_is_storable_iff (env : Env) (latitude longitude : Option Double) (attrs : List (String × String)) :
    (∀ base, (UserProperty.limits env latitude longitude).Storable env.strict base attrs ↔
      (UserProperty.limits env latitude longitude).Within env.strict base attrs) ∧
    (∀ base, (UserLookingForProperty.limits env latitude longitude).Storable env.strict base attrs ↔
      (UserLookingForProperty.limits env latitude longitude).Within env.strict base attrs) ∧
    (∀ base, (Profile.limits env latitude longitude).Storable env.strict base attrs ↔
      (Profile.limits env latitude longitude).Within env.strict base attrs) ∧
    (∀ devise base, (Administrator.limits devise).Storable env.strict base attrs ↔
      (Administrator.limits devise).Within env.strict base attrs) ∧
    (∀ t self base, (Named.limits env t self).Storable env.strict base attrs ↔
      (Named.limits env t self).Within env.strict base attrs) :=
  ⟨fun base => LimitedModel.storable_iff env.strict base attrs,fun base => LimitedModel.storable_iff env.strict base attrs,
    fun base => LimitedModel.storable_iff env.strict base attrs,
    fun _ base => LimitedModel.storable_iff env.strict base attrs,
    fun _ _ base => LimitedModel.storable_iff env.strict base attrs⟩

/-- A mobile number of sixteen characters, blanks included. -/
theorem long_mobile_number_is_not_storable :
    ¬ (Administrator.limits fun _ => true).Storable false .new
      [("email","admin@example.com"),("password","secret12"),("password_confirmation","secret12"),
        ("first_name","Asha"),("last_name","Rao"),("mobile_number","+91 40 2345 6789")] := by
  intro storable
  have fits := (storable _ ⟨rfl,by decide⟩).1
  revert fits
  decide

end HyderabadHomes
