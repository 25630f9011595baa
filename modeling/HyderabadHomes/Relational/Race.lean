import HyderabadHomes.Relational.Unique
import HyderabadHomes.Transition.Interference

/-! Concurrent requests each of whose steps issues at most one statement on a family of
tables, and whether the tables stay free of clashes under every schedule. -/
namespace Relational
open Transition

variable {S L R ι α : Type} [DecidableEq ι]

def SingleWrites (atomic : S → L → S × L) (table : S → ι → Table α) (write : L → Option (ι × Write α)) : Prop :=
  ∀ s l k, table (atomic s l).1 k =
    match write l with
    | none => table s k
    | some (j,w) => if k = j then w.apply (table s k) else table s k

def AllUnique (clash : α → α → Prop) (table : S → ι → Table α) (s : S) : Prop := ∀ k, (table s k).Unique clash

def StillFree (clash : α → α → Prop) (table : S → ι → Table α) (write : L → Option (ι × Write α)) (c : Pool S L) :
    Schedule R → Prop
  | .start _ => True
  | .advance i => ∀ l ∈ c.threads[i]?, ∀ p ∈ write l, p.2.Harmless clash (table c.shared p.1)

section Races
variable {clash : α → α → Prop} [Std.Symm clash] {init : R → L} {atomic : S → L → S × L} {table : S → ι → Table α}
  {write : L → Option (ι × Write α)}

theorem step_unique_iff (single : SingleWrites atomic table write) (c : Pool S L) (act : Schedule R)
    (unique : AllUnique clash table c.shared) :
    AllUnique clash table (Pool.step init atomic c act).shared ↔ StillFree clash table write c act := by
  cases act with
  | start request => exact ⟨fun _ => trivial,fun _ => unique⟩
  | advance i =>
    cases found : c.threads[i]? with
    | none => simp [Pool.step,StillFree,found,unique]
    | some l =>
      simp only [Pool.step,StillFree,found,Option.mem_some,forall_eq',AllUnique,single c.shared l]
      cases written : write l with
      | none =>
        refine ⟨fun _ p none => ?_,fun _ => unique⟩
        cases none
      | some p =>
        obtain ⟨j,w⟩ := p
        have exact_table := Write.unique_iff (unique j) w
        simp only [Option.mem_some,forall_eq']
        constructor
        · intro unique'
          have own := unique' j
          rw [if_pos rfl] at own
          exact exact_table.mp own
        · intro free k
          split
          · rename_i here
            rw [here]
            exact exact_table.mpr free
          · exact unique k

theorem run_unique_iff (single : SingleWrites atomic table write) {c : Pool S L}
    (start : AllUnique clash table c.shared) (acts : List (Schedule R)) :
    Throughout (Pool.step init atomic) (fun c => AllUnique clash table c.shared) c acts ↔
      Along (Pool.step init atomic) (StillFree clash table write) c acts :=
  throughout_iff_along (Pool.step init atomic) (fun c act unique => step_unique_iff single c act unique) start acts

/-- Assertions that make every write harmless, and that the admitted steps of the
others leave standing, keep the tables free of clashes. -/
theorem run_unique_of_assertions (single : SingleWrites atomic table write) (A : L → S → Prop)
    {P : Pool S L → Schedule R → Prop} (starts : ∀ request s, A (init request) s)
    (own : ∀ s l, AllUnique clash table s → A l s → A (atomic s l).2 (atomic s l).1)
    (harmless : ∀ c i l, P c (.advance i) → l ∈ c.threads[i]? → AllUnique clash table c.shared → A l c.shared →
      ∀ p ∈ write l, p.2.Harmless clash (table c.shared p.1))
    (others : ∀ c i l m, P c (.advance i) → l ∈ c.threads[i]? → m ∈ c.threads.eraseIdx i →
      AllUnique clash table c.shared → A m c.shared → A m (atomic c.shared l).1)
    {s : S} (start : AllUnique clash table s) {acts : List (Schedule R)}
    (admitted : Along (Pool.step init atomic) P ⟨s,[]⟩ acts) :
    Throughout (Pool.step init atomic) (fun c => AllUnique clash table c.shared) ⟨s,[]⟩ acts := by
  have keeps : ∀ c act, Pool.Holds (AllUnique clash table) A c → P c act →
      Pool.Holds (AllUnique clash table) A (Pool.step init atomic c act) := by
    refine fun c act => Pool.inductive_step init atomic (fun request s _ => starts request s) ?_ ?_ c act
    · intro c i l admitted found unique holds
      refine ⟨?_,own c.shared l unique holds⟩
      have stepped : (Pool.step init atomic c (.advance i)).shared = (atomic c.shared l).1 := by
        simp only [Pool.step,found]
      rw [← stepped]
      refine (step_unique_iff single c (.advance i) unique).mpr fun l' here => ?_
      cases found.symm.trans here
      exact harmless c i l admitted found unique holds
    · intro c i j l m admitted found other apart unique _ theirs
      have member : m ∈ c.threads.eraseIdx i := List.mem_eraseIdx_iff_getElem?.mpr ⟨j,apart.symm,other⟩
      exact others c i l m admitted found member unique theirs
  have holds := Along.throughout (Pool.step init atomic) keeps ⟨start,by simp⟩ admitted
  rw [throughout_iff_take] at holds ⊢
  exact fun n => (holds n).1

end Races
end Relational
