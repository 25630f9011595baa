import HyderabadHomes.ProfileRace
import HyderabadHomes.Relational.Columns

/-! Edits of one profile side by side. Each request loads the row, and writes the columns
in which its record differs from what it has loaded. -/
namespace HyderabadHomes
open Relational Transition

section Columns
variable {β : Type} [DecidableEq β]

def Profile.Column (col : Profile → β) : Prop :=
  ∀ held record current, col (Profile.overwrite held record current) =
    if col record = col held then col current else col record

namespace Profiling

def sets (col : Profile → β) (id : Int) : Profiling → Option β
  | .updating held record answer =>
    match Profile.save answer record with
    | .stored stored => if held.id = id ∧ col stored ≠ col held.val then some (col stored) else none
    | _ => none
  | _ => none

theorem sets_updating (env : Env) {col : Profile → β} (column : Profile.Column col) (id : Int) (held : Row Profile)
    (record : Profile) (answer : Geocoding) :
    Sets col id (fun t => (step env t (.updating held record answer)).1) (sets col id (.updating held record answer)) := by
  cases saved : Profile.save answer record with
  | stored stored =>
    have changed : ∀ val, col (Profile.overwrite held.val stored val) =
        (if col stored = col held.val then none else some (col stored)).getD (col val) := by
      intro val
      rw [column]
      split <;> rfl
    have value : sets col id (.updating held record answer) =
        if held.id = id then (if col stored = col held.val then none else some (col stored)) else none := by
      simp only [sets,saved]
      by_cases own : held.id = id <;> by_cases same : col stored = col held.val <;> simp [own,same]
    rw [value]
    exact (Sets.update held.id changed).congr fun t => by simp only [step,saved]
  | rejected =>
    have none : sets col id (.updating held record answer) = none := by simp only [sets,saved]
    rw [none]
    exact Sets.idle.congr fun t => by simp only [step,saved]
  | raised e =>
    have none : sets col id (.updating held record answer) = none := by simp only [sets,saved]
    rw [none]
    exact Sets.idle.congr fun t => by simp only [step,saved]

theorem step_sets (env : Env) {col : Profile → β} (column : Profile.Column col) (id : Int) (l : Profiling) :
    Sets col id (fun t => (step env t l).1) (sets col id l) := by
  cases l with
  | arrived currentUser call =>
    refine Sets.idle.congr fun t => ?_
    rw [step_table]
    rfl
  | replacing loaded record answer => exact Sets.delete loaded.id
  | inserting record answer =>
    cases saved : Profile.save answer record with
    | stored stored => exact (Sets.insert stored).congr fun t => by simp only [step,saved]
    | rejected => exact Sets.idle.congr fun t => by simp only [step,saved]
    | raised e => exact Sets.idle.congr fun t => by simp only [step,saved]
  | updating held record answer => exact sets_updating env column id held record answer
  | finished response => exact Sets.idle

end Profiling

/-- However profile requests interleave, from any moment on: a row that is still there at
the end has in each column the value of the last committed update that had changed the
column, in comparison with what its own request had loaded, and without one its old value. -/
theorem columns_keep_their_last_change (env : Env) {col : Profile → β} (column : Profile.Column col)
    (c : Pool (Table Profile) Profiling) (acts : List (Schedule (Option Int × ProfileCall))) {id : Int}
    {first last : Row Profile} (before : c.shared.find? id = some first)
    (after : (run (profileRace env) c acts).shared.find? id = some last) :
    col last.val = lastSet (Profiling.sets col id) (col first.val)
      (Pool.taken (fun r => .arrived r.1 r.2) (Profiling.step env) c acts) := by
  rw [Pool.shared_run] at after
  exact Sets.foldl (Profiling.step_sets env column id) before after

end Columns

theorem Profile.columns :
    Column firstName ∧ Column lastName ∧ Column dob ∧ Column gender ∧ Column mobileNumber ∧ Column alternateNumber ∧
      Column workLocation ∧ Column employer ∧ Column userId ∧ Column latitude ∧ Column longitude :=
  ⟨fun _ _ _ => rfl,fun _ _ _ => rfl,fun _ _ _ => rfl,fun _ _ _ => rfl,fun _ _ _ => rfl,fun _ _ _ => rfl,
    fun _ _ _ => rfl,fun _ _ _ => rfl,fun _ _ _ => rfl,fun _ _ _ => rfl,fun _ _ _ => rfl⟩

def oneProfile : Pool (Table Profile) Profiling :=
  run (profileRace .production) ⟨Table.empty,[]⟩
    [.start (some 1,.create (filledIn []) (some "Kondapur") (.accepted none none)),.advance 0,.advance 0]

def twoEdits : List (Schedule (Option Int × ProfileCall)) :=
  [.start (some 1,.update "1" [("employer",some "Infosys")] (some "Kondapur") none (.accepted none none)),
    .start (some 1,.update "1" [("mobile_number",some "9111111111")] (some "Kondapur") none (.accepted none none)),
    .advance 1,.advance 2,.advance 1,.advance 2]

/-- The second edit is committed last, from a row that still had the old employer. -/
theorem first_edit_survives :
    ∃ last, (run (profileRace .production) oneProfile twoEdits).shared.find? 1 = some last ∧
      last.val.employer = some "Infosys" := by
  have before : ∃ first, oneProfile.shared.find? 1 = some first := Option.isSome_iff_exists.mp (by decide)
  have after : ∃ last, (run (profileRace .production) oneProfile twoEdits).shared.find? 1 = some last :=
    Option.isSome_iff_exists.mp (by decide)
  obtain ⟨first,here⟩ := before
  obtain ⟨last,there⟩ := after
  refine ⟨last,there,?_⟩
  rw [columns_keep_their_last_change .production Profile.columns.2.2.2.2.2.2.2.1 oneProfile twoEdits here there]
  have set : ((Pool.taken (fun r => .arrived r.1 r.2) (Profiling.step .production) oneProfile twoEdits).filterMap
      (Profiling.sets Profile.employer 1)).getLast? = some (some "Infosys") := by decide
  rw [lastSet,set]
  rfl

end HyderabadHomes
