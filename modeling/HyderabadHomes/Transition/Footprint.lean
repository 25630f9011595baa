import HyderabadHomes.Transition.Run
import Mathlib.Data.Set.Basic

/-! Steps over a state of named components, with the components each one reads and writes.
Steps whose footprints do not meet commute, so runs may be reordered; and what nobody reads
influences nothing. -/
namespace Transition

variable {S O A ι : Type} {C : ι → Type} (get : S → (i : ι) → C i)

def Agree (X : Set ι) (s t : S) : Prop := ∀ i ∈ X, get s i = get t i

/-- What a step answers depends on `reads` alone, and what it leaves in a component on
`reads` and that component; components outside `writes` stay as they are. -/
structure Footprint (step : S → S × O) (reads writes : Set ι) : Prop where
  frame : ∀ s, ∀ i ∉ writes, get (step s).1 i = get s i
  answer : ∀ s t, Agree get reads s t → (step s).2 = (step t).2
  effect : ∀ s t, Agree get reads s t → ∀ i ∈ writes, get s i = get t i → get (step s).1 i = get (step t).1 i

variable {get} {step step' : S → S × O} {reads writes reads' writes' : Set ι}

namespace Footprint

theorem mono (footprint : Footprint get step reads writes) {R W : Set ι} (more : ∀ i ∈ reads, i ∈ R)
    (wider : ∀ i ∈ writes, i ∈ W) : Footprint get step R W where
  frame s i outside := footprint.frame s i fun inside => outside (wider i inside)
  answer s t agree := footprint.answer s t fun i member => agree i (more i member)
  effect s t agree i _ same := by
    by_cases inside : i ∈ writes
    · exact footprint.effect s t (fun i member => agree i (more i member)) i inside same
    · rw [footprint.frame s i inside,footprint.frame t i inside,same]

theorem map {O' : Type} (footprint : Footprint get step reads writes) (f : O → O') :
    Footprint get (fun s => ((step s).1,f (step s).2)) reads writes where
  frame := footprint.frame
  answer s t agree := congrArg f (footprint.answer s t agree)
  effect := footprint.effect

/-- The answer may also show the state that the step leaves, as far as it reads it. -/
theorem observe {O' : Type} (footprint : Footprint get step reads writes) (view : O → S → O')
    (seen : ∀ s t t', Agree get reads t t' → view (step s).2 t = view (step s).2 t') :
    Footprint get (fun s => ((step s).1,(step s).2,view (step s).2 (step s).1)) reads writes where
  frame := footprint.frame
  effect := footprint.effect
  answer s t agree := by
    have after : Agree get reads (step s).1 (step t).1 := by
      intro i member
      by_cases written : i ∈ writes
      · exact footprint.effect s t agree i written (agree i member)
      · rw [footprint.frame s i written,footprint.frame t i written]
        exact agree i member
    have shown := seen s _ _ after
    rw [footprint.answer s t agree] at shown ⊢
    exact congrArg (Prod.mk _) shown

theorem agree_frame (footprint : Footprint get step reads writes) {X : Set ι} (apart : ∀ i ∈ X, i ∉ writes) (s : S) :
    Agree get X (step s).1 s := fun i member => footprint.frame s i (apart i member)

/-- Neither step writes what the other reads or writes. -/
theorem commute (ext : ∀ s t : S, (∀ i, get s i = get t i) → s = t) (first : Footprint get step reads writes)
    (second : Footprint get step' reads' writes') (left : ∀ i ∈ writes, i ∉ reads' ∧ i ∉ writes')
    (right : ∀ i ∈ writes', i ∉ reads ∧ i ∉ writes) (s : S) :
    (step' (step s).1).1 = (step (step' s).1).1 ∧ (step' (step s).1).2 = (step' s).2 ∧
      (step (step' s).1).2 = (step s).2 := by
  have unseen' : Agree get reads' (step s).1 s := first.agree_frame (fun i member written => (left i written).1 member) s
  have unseen : Agree get reads (step' s).1 s := second.agree_frame (fun i member written => (right i written).1 member) s
  refine ⟨ext _ _ fun i => ?_,second.answer _ _ unseen',first.answer _ _ unseen⟩
  by_cases mine : i ∈ writes
  · have other := (left i mine).2
    rw [second.frame _ i other]
    exact (first.effect _ _ unseen i mine (second.frame s i other)).symm
  · by_cases yours : i ∈ writes'
    · rw [first.frame _ i mine]
      exact second.effect _ _ unseen' i yours (first.frame s i mine)
    · rw [second.frame _ i yours,first.frame _ i mine,first.frame _ i mine,second.frame _ i yours]

end Footprint

section Runs
variable (act : S → A → S × O)

def next (s : S) (a : A) : S := (act s a).1

def answers : S → List A → List (A × O)
  | _, [] => []
  | s, a :: rest => (a,(act s a).2) :: answers (next act s a) rest

variable (get) in
structure Footprints (reads writes : A → Set ι) : Prop where
  ext : ∀ s t : S, (∀ i, get s i = get t i) → s = t
  each : ∀ a, Footprint get (fun s => act s a) (reads a) (writes a)

def Independent (reads writes : A → Set ι) (a b : A) : Prop :=
  (∀ i ∈ writes a, i ∉ reads b ∧ i ∉ writes b) ∧ ∀ i ∈ writes b, i ∉ reads a ∧ i ∉ writes a

inductive Reordered (apart : A → A → Prop) : List A → List A → Prop
  | refl (acts : List A) : Reordered apart acts acts
  | swap (front : List A) (a b : A) (rest : List A) (exchanged : apart a b) :
      Reordered apart (front ++ a :: b :: rest) (front ++ b :: a :: rest)
  | trans {xs ys zs : List A} (first : Reordered apart xs ys) (second : Reordered apart ys zs) :
      Reordered apart xs zs

variable {act} {reads writes : A → Set ι}

theorem answers_append (s : S) (front rest : List A) :
    answers act s (front ++ rest) = answers act s front ++ answers act (run (next act) s front) rest := by
  induction front generalizing s with
  | nil => rfl
  | cons a front ih => simp only [List.cons_append,answers,ih,run_cons]

theorem run_append {B : Type} (step : S → B → S) (s : S) (front rest : List B) :
    run step s (front ++ rest) = run step (run step s front) rest := List.foldl_append

namespace Footprints

/-- Reordering independent requests changes neither the final state nor any answer. -/
theorem reordered (prints : Footprints get act reads writes) {apart : A → A → Prop}
    (independent : ∀ a b, apart a b → Independent reads writes a b) {xs ys : List A} (same : Reordered apart xs ys)
    (s : S) : run (next act) s xs = run (next act) s ys ∧ (answers act s xs).Perm (answers act s ys) := by
  induction same with
  | refl acts => exact ⟨rfl,.refl _⟩
  | trans _ _ first second => exact ⟨first.1.trans second.1,first.2.trans second.2⟩
  | swap front a b rest exchanged =>
    obtain ⟨left,right⟩ := independent a b exchanged
    obtain ⟨state,there,here⟩ := (prints.each a).commute prints.ext (prints.each b) left right (run (next act) s front)
    constructor
    · simp only [run_append,run_cons]
      exact congrArg (fun s => run (next act) s rest) state
    · rw [answers_append,answers_append]
      apply List.Perm.append_left
      simp only [answers,next,state,there,here]
      exact .swap _ _ _

/-- No answer of a run depends on components that none of its requests reads. -/
theorem hidden (prints : Footprints get act reads writes) {H : Set ι} {acts : List A}
    (blind : ∀ a ∈ acts, ∀ i ∈ H, i ∉ reads a) {s t : S} (agree : Agree get {i | i ∉ H} s t) :
    answers act s acts = answers act t acts ∧
      Agree get {i | i ∉ H} (run (next act) s acts) (run (next act) t acts) := by
  induction acts generalizing s t with
  | nil => exact ⟨rfl,agree⟩
  | cons a rest ih =>
    have seen : Agree get (reads a) s t := fun i member => agree i fun hidden => blind a (by simp) i hidden member
    have after : Agree get {i | i ∉ H} (next act s a) (next act t a) := by
      intro i outside
      by_cases written : i ∈ writes a
      · exact (prints.each a).effect s t seen i written (agree i outside)
      · unfold next
        rw [(prints.each a).frame s i written,(prints.each a).frame t i written]
        exact agree i outside
    obtain ⟨answered,later⟩ := ih (fun b member => blind b (by simp [member])) after
    exact ⟨by simp only [answers,answered,(prints.each a).answer s t seen],later⟩

/-- A component that no request of a run writes is what it was. -/
theorem untouched (prints : Footprints get act reads writes) {i : ι} {acts : List A}
    (spared : ∀ a ∈ acts, i ∉ writes a) (s : S) : get (run (next act) s acts) i = get s i := by
  induction acts generalizing s with
  | nil => rfl
  | cons a rest ih =>
    rw [run_cons,ih fun b member => spared b (by simp [member])]
    exact (prints.each a).frame s i (spared a (by simp))

end Footprints
end Runs
end Transition
