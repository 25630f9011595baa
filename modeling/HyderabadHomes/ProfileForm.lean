import HyderabadHomes.Profile
import HyderabadHomes.Html.Form

/-! The profile form against `Users::ProfilesController#update`. Six fields travel in the
hash next to the gender, `work_location` travels as `addr`, and the `dob` that `update` reads
outside the hash is not sent. -/
namespace HyderabadHomes
open Relational

inductive GenderButton
  | male
  | female
deriving DecidableEq,Repr

def GenderButton.value : GenderButton → String
  | .male => "1"
  | .female => "0"

/-- The radio group of the edit form: the branch that `gender?` takes marks one button, and
Rails marks the other one where its value is stored. -/
def genderButtons (gender : Option String) : List (GenderButton × Bool) :=
  if Ruby.present gender then [(.male,true),(.female,gender == some GenderButton.female.value)]
  else [(.male,gender == some GenderButton.male.value),(.female,true)]

theorem radioGroup_genderButtons (gender : Option String) :
    Html.radioGroup (genderButtons gender) =
      some (if Ruby.present gender && gender != some "0" then .male else .female) := by
  unfold genderButtons
  by_cases present : Ruby.present gender
  · by_cases zero : gender = some "0"
    · subst zero
      decide
    · simp [present,zero,Html.radioGroup,GenderButton.value]
  · have one : gender ≠ some "1" := fun same => present (by rw [same]; decide)
    simp [present,one,Html.radioGroup,GenderButton.value]

/-- The button that is on stands for the stored gender only where a button was ever chosen. -/
theorem genderButtons_shows_iff {gender : Option String} {on : GenderButton}
    (shown : Html.radioGroup (genderButtons gender) = some on) :
    on.value = gender.getD "" ↔ gender = some "0" ∨ gender = some "1" := by
  rw [radioGroup_genderButtons] at shown
  cases shown
  cases gender with
  | none => decide
  | some s =>
    by_cases present : Ruby.present (some s)
    · by_cases zero : s = "0"
      · subst zero
        decide
      · have male : (if Ruby.present (some s) && some s != some "0" then GenderButton.male else .female) = .male := by
          simp [present,zero]
        rw [male]
        simp only [Option.getD_some,Option.some.injEq,zero,false_or]
        exact eq_comm
    · have zero : s ≠ "0" := fun same => present (by rw [same]; decide)
      have one : s ≠ "1" := fun same => present (by rw [same]; decide)
      simp [present,zero,one,Ne.symm zero,GenderButton.value]

structure ProfileEntry where
  firstName : String
  lastName : String
  dob : String
  gender : GenderButton
  mobileNumber : String
  alternateNumber : String
  workLocation : String
  employer : String
deriving DecidableEq,Repr

namespace ProfileEntry

def texts (e : ProfileEntry) : List String :=
  [e.firstName,e.lastName,e.dob,e.mobileNumber,e.alternateNumber,e.workLocation,e.employer]

def attrs (e : ProfileEntry) : Attrs :=
  [("first_name",some e.firstName),("last_name",some e.lastName),("dob",some e.dob),("gender",some e.gender.value),
    ("mobile_number",some e.mobileNumber),("alternate_number",some e.alternateNumber),("employer",some e.employer)]

end ProfileEntry

namespace Profile

def texts (r : Profile) : List String :=
  [r.firstName,r.lastName,r.dob,r.mobileNumber,r.alternateNumber,r.workLocation,r.employer].map (·.getD "")

def enter (e : ProfileEntry) (r : Profile) : Profile :=
  {r with
    firstName := some e.firstName,lastName := some e.lastName,dob := some e.dob,gender := some e.gender.value
    mobileNumber := some e.mobileNumber,alternateNumber := some e.alternateNumber
    workLocation := some e.workLocation,employer := some e.employer}

theorem assign_attrs (env : Env) (e : ProfileEntry) (r : Profile) :
    assign (attrAccessible env) env.strict {r with workLocation := some e.workLocation,dob := none} e.attrs =
      .ok (enter e r) := rfl

structure Shows (e : ProfileEntry) (r : Profile) : Prop where
  texts : r.texts = e.texts
  gender : r.gender = some e.gender.value

structure SameShown (r s : Profile) : Prop where
  texts : r.texts = s.texts
  gender : r.gender.getD "" = s.gender.getD ""

structure Rendered (r : Profile) (e : ProfileEntry) : Prop where
  texts : e.texts = r.texts.map Html.textField
  gender : Html.radioGroup (genderButtons r.gender) = some e.gender

def Accepts (e : ProfileEntry) (r : Profile) (answer : Geocoding) : Prop :=
  valid (enter e r) = true ∧ ∃ latitude longitude, answer = .accepted latitude longitude

/-- What is accepted fits its columns, and a form that is accepted as it was rendered had a
gender to show. -/
def Faithful (e : ProfileEntry) (r : Profile) (answer : Geocoding) : Prop :=
  Accepts e r answer →
    fits (enter e r) = true ∧ (Rendered r e → r.gender = some "0" ∨ r.gender = some "1")

theorem fits_iff (r : Profile) : fits r = true ↔
    (∀ value ∈ r.texts, value.length ≤ stringLimit) ∧ (r.gender.getD "").length ≤ stringLimit ∧
      fitsInteger r.userId = true := by
  simp only [fits,texts,List.all_cons,List.all_nil,Bool.and_true,Bool.and_eq_true,fitsString_iff,List.map_cons,
    List.map_nil,List.forall_mem_cons,List.not_mem_nil,false_imp_iff,implies_true,and_true]
  tauto

section Enter
variable {e : ProfileEntry} {r : Profile} (latitude longitude : Option Double)

theorem shows_enter : Shows e (locate latitude longitude (enter e r)) := ⟨rfl,rfl⟩

theorem fits_enter (shows : Shows e r) (fit : fits r = true) : fits (enter e r) = true := by
  obtain ⟨texts,gender,userId⟩ := (fits_iff r).mp fit
  refine (fits_iff (enter e r)).mpr ⟨?_,?_,userId⟩
  · rw [shows.texts] at texts
    exact texts
  · rw [shows.gender] at gender
    exact gender

theorem sameShown_enter_iff (plain : ∀ value ∈ r.texts, Html.OneLine value) (rendered : Rendered r e) :
    SameShown (locate latitude longitude (enter e r)) r ↔ r.gender = some "0" ∨ r.gender = some "1" := by
  have texts : (locate latitude longitude (enter e r)).texts = r.texts := by
    rw [(shows_enter latitude longitude).texts,rendered.texts]
    exact (List.map_congr_left fun value member => Html.textField_of_oneLine (plain value member)).trans
      (List.map_id' r.texts)
  rw [← genderButtons_shows_iff rendered.gender]
  exact ⟨fun same => same.gender,fun same => ⟨texts,same⟩⟩

end Enter

end Profile

namespace ProfilesController
open Profile

def submit (env : Env) (t : Table Profile) (row : Row Profile) (e : ProfileEntry) (answer : Geocoding) :
    Table Profile × Response :=
  update env (toString row.id) e.attrs (some e.workLocation) none answer t

/-- Valid values are stored as entered, and the values of the page change nothing. -/
def RoundTrips (env : Env) (t : Table Profile) (row : Row Profile) (e : ProfileEntry) (answer : Geocoding) : Prop :=
  (Accepts e row.val answer →
    ∃ after ∈ (submit env t row e answer).1.rows, after.id = row.id ∧ Shows e after.val) ∧
  (Rendered row.val e →
    ∃ after ∈ (submit env t row e answer).1.rows, after.id = row.id ∧ SameShown after.val row.val)

section Submit
variable (env : Env) {t : Table Profile} {row : Row Profile} (member : row ∈ t.rows) (e : ProfileEntry)
  {answer : Geocoding}
include member

theorem submit_table : (submit env t row e answer).1 =
    ((save answer (enter e row.val)).record?.map fun stored => t.update row.id fun _ => stored).getD t := by
  have found : t.find? (Ruby.toI (toString row.id)) = some row :=
    Table.find?_eq_some.mpr ⟨member,(Ruby.toI_toString row.id).symm⟩
  simp only [submit,update,found,assign_attrs]
  cases save answer (enter e row.val) <;> rfl

theorem submit_of_refused (refused : ¬ (Accepts e row.val answer ∧ fits (enter e row.val) = true)) :
    (submit env t row e answer).1 = t := by
  rw [submit_table env member e]
  cases saved : save answer (enter e row.val) with
  | rejected => rfl
  | raised error => rfl
  | stored stored =>
    obtain ⟨latitude,longitude,answered,valid,fit,rfl⟩ := saveGeocoded_stored saved
    exact absurd ⟨⟨valid,latitude,longitude,answered⟩,fit⟩ refused

theorem submit_of_accepted {latitude longitude : Option Double} (valid : valid (enter e row.val) = true)
    (fit : fits (enter e row.val) = true) :
    (submit env t row e (.accepted latitude longitude)).1 =
      t.update row.id fun _ => locate latitude longitude (enter e row.val) := by
  have fit' : fits (locate latitude longitude (enter e row.val)) = true := fit
  rw [submit_table env member e,save,saveGeocoded_of_valid valid,if_pos fit']
  rfl

end Submit

/-- The form and the action agree on a stored row exactly where the form is faithful. -/
theorem edit_form_round_trip_iff (env : Env) {t : Table Profile} {row : Row Profile} (member : row ∈ t.rows)
    (stored : fits row.val = true) (plain : ∀ value ∈ row.val.texts, Html.OneLine value) (e : ProfileEntry)
    (answer : Geocoding) : RoundTrips env t row e answer ↔ Faithful e row.val answer := by
  unfold RoundTrips Faithful
  by_cases written : Accepts e row.val answer ∧ fits (enter e row.val) = true
  · obtain ⟨accepts,fit⟩ := written
    obtain ⟨valid,latitude,longitude,rfl⟩ := id accepts
    rw [submit_of_accepted env member e valid fit,Table.exists_update member _ (Shows e),
      Table.exists_update member _ fun r => SameShown r row.val]
    have unchanged := fun rendered : Rendered row.val e => sameShown_enter_iff latitude longitude plain rendered
    constructor
    · intro agree _
      exact ⟨fit,fun rendered => (unchanged rendered).mp (agree.2 rendered)⟩
    · intro faithful
      exact ⟨fun _ => shows_enter latitude longitude,fun rendered => (unchanged rendered).mpr ((faithful accepts).2 rendered)⟩
  · rw [submit_of_refused env member e written]
    constructor
    · intro agree accepts
      obtain ⟨after,inside,same,shows⟩ := agree.1 accepts
      rw [Table.eq_of_id inside member same] at shows
      exact absurd ⟨accepts,fits_enter shows stored⟩ written
    · intro faithful
      exact ⟨fun accepts => absurd ⟨accepts,(faithful accepts).1⟩ written,fun _ => ⟨row,member,rfl,⟨rfl,rfl⟩⟩⟩

def ashasForm (on : GenderButton) : ProfileEntry := ⟨"Asha","Rao","",on,"9000000000","","Kondapur","Self"⟩

def asha (gender : Option String) : Profile :=
  {fresh with
    firstName := some "Asha",lastName := some "Rao",gender := gender,mobileNumber := some "9000000000"
    workLocation := some "Kondapur",employer := some "Self",userId := some 1}

theorem edit_form_round_trip_male :
    RoundTrips .production (Table.empty.insert (asha (some "1"))) ⟨1,asha (some "1")⟩ (ashasForm .male)
      (.accepted none none) :=
  (edit_form_round_trip_iff .production (by decide) (by decide) (by decide) _ _).mpr
    fun _ => ⟨by decide,fun _ => .inr rfl⟩

/-- Without a gender, the button of the other branch is on. -/
theorem unset_gender_is_stored :
    ¬ RoundTrips .production (Table.empty.insert (asha none)) ⟨1,asha none⟩ (ashasForm .female) (.accepted none none) := by
  intro agree
  obtain ⟨after,inside,_,same⟩ := agree.2 ⟨by decide,by decide⟩
  have stored : ∀ row ∈ (submit .production (Table.empty.insert (asha none)) ⟨1,asha none⟩ (ashasForm .female)
      (.accepted none none)).1.rows, row.val.gender = some "0" := by decide
  have gender := same.gender
  rw [stored after inside] at gender
  exact absurd gender (by decide)

end ProfilesController
end HyderabadHomes
