import Mathlib.Data.List.Basic
import Mathlib.Data.List.TakeDrop

/-! Finite runs of a deterministic step function.
`Along` puts a condition on every step taken, `Throughout` a condition on every
state visited; the rules below move between one step and whole runs. -/
namespace Transition

variable {S A : Type} (step : S → A → S)

def run (s : S) (acts : List A) : S := acts.foldl step s

def Along (P : S → A → Prop) : S → List A → Prop
  | _, [] => True
  | s, act :: rest => P s act ∧ Along P (step s act) rest

instance Along.decidable {P : S → A → Prop} [∀ s act, Decidable (P s act)] :
    (s : S) → (acts : List A) → Decidable (Along step P s acts)
  | _, [] => inferInstanceAs (Decidable True)
  | s, act :: rest =>
    have : Decidable (Along step P (step s act) rest) := Along.decidable (step s act) rest
    inferInstanceAs (Decidable (P s act ∧ Along step P (step s act) rest))

def Throughout (I : S → Prop) : S → List A → Prop
  | s, [] => I s
  | s, act :: rest => I s ∧ Throughout I (step s act) rest

@[simp] theorem run_nil (s : S) : run step s [] = s := rfl

@[simp] theorem run_cons (s : S) (act : A) (rest : List A) :
    run step s (act :: rest) = run step (step s act) rest := rfl

theorem Throughout.start {I : S → Prop} {s : S} {acts : List A} (h : Throughout step I s acts) : I s := by
  cases acts with
  | nil => exact h
  | cons act rest => exact h.1

theorem throughout_iff_take {I : S → Prop} {s : S} {acts : List A} :
    Throughout step I s acts ↔ ∀ n, I (run step s (acts.take n)) := by
  induction acts generalizing s with
  | nil => simp [Throughout]
  | cons act rest ih =>
    simp only [Throughout,ih]
    constructor
    · intro all n
      obtain ⟨here,later⟩ := all
      cases n with
      | zero => exact here
      | succ n => exact later n
    · intro all
      exact ⟨all 0,fun n => all (n+1)⟩

theorem Along.imp {P Q : S → A → Prop} (weaken : ∀ s act, P s act → Q s act) {s : S} {acts : List A}
    (h : Along step P s acts) : Along step Q s acts := by
  induction acts generalizing s with
  | nil => trivial
  | cons act rest ih => exact ⟨weaken _ _ h.1,ih h.2⟩

theorem along_congr {P Q : S → A → Prop} (same : ∀ s act, P s act ↔ Q s act) (s : S) (acts : List A) :
    Along step P s acts ↔ Along step Q s acts :=
  ⟨Along.imp step fun s act => (same s act).mp,Along.imp step fun s act => (same s act).mpr⟩

/-- The invariant rule: a state property that every admitted step preserves holds
in every state of an admitted run. -/
theorem Along.throughout {I : S → Prop} {P : S → A → Prop}
    (keeps : ∀ s act, I s → P s act → I (step s act)) {s : S} {acts : List A}
    (start : I s) (admitted : Along step P s acts) : Throughout step I s acts := by
  induction acts generalizing s with
  | nil => exact start
  | cons act rest ih => exact ⟨start,ih (keeps s act start admitted.1) admitted.2⟩

/-- The same where every step preserves it. -/
theorem throughout_of_keeps {I : S → Prop} (keeps : ∀ s act, I s → I (step s act)) {s : S} (start : I s)
    (acts : List A) : Throughout step I s acts := by
  induction acts generalizing s with
  | nil => exact start
  | cons act rest ih => exact ⟨start,ih (keeps s act start)⟩

/-- Where one step preserves the invariant exactly when it is admitted, so do runs. -/
theorem throughout_iff_along {I : S → Prop} {P : S → A → Prop}
    (exact_step : ∀ s act, I s → (I (step s act) ↔ P s act)) {s : S} (start : I s) (acts : List A) :
    Throughout step I s acts ↔ Along step P s acts := by
  induction acts generalizing s with
  | nil => exact ⟨fun _ => trivial,fun _ => start⟩
  | cons act rest ih =>
    constructor
    · intro all
      obtain ⟨_,later⟩ := all
      have next := Throughout.start step later
      exact ⟨(exact_step s act start).mp next,(ih next).mp later⟩
    · intro all
      obtain ⟨admitted,later⟩ := all
      have next := (exact_step s act start).mpr admitted
      exact ⟨start,(ih next).mpr later⟩

/-- The same where the property itself is not inductive, but an invariant of the admitted
runs implies it. -/
theorem throughout_iff_along_of_invariant {I J : S → Prop} {P : S → A → Prop} (implies : ∀ s, I s → J s)
    (exact_step : ∀ s act, I s → (J (step s act) ↔ P s act)) (keeps : ∀ s act, I s → P s act → I (step s act))
    {s : S} (start : I s) (acts : List A) : Throughout step J s acts ↔ Along step P s acts := by
  induction acts generalizing s with
  | nil => exact ⟨fun _ => trivial,fun _ => implies s start⟩
  | cons act rest ih =>
    constructor
    · intro all
      obtain ⟨_,later⟩ := all
      have admitted := (exact_step s act start).mp (Throughout.start step later)
      exact ⟨admitted,(ih (keeps s act start admitted)).mp later⟩
    · intro all
      obtain ⟨admitted,later⟩ := all
      exact ⟨implies s start,(ih (keeps s act start admitted)).mpr later⟩

/-- The state after so many steps of a run; the last one where the run is shorter. -/
def stateAt (s : S) (acts : List A) (n : Nat) : S := run step s (acts.take n)

theorem stateAt_zero (s : S) (acts : List A) : stateAt step s acts 0 = s := rfl

theorem stateAt_succ (s : S) {acts : List A} {n : Nat} {act : A} (taken : acts[n]? = some act) :
    stateAt step s acts (n+1) = step (stateAt step s acts n) act := by
  simp only [stateAt,run,List.take_add_one,taken,Option.toList_some,List.foldl_append,List.foldl_cons,List.foldl_nil]

theorem stateAt_past (s : S) {acts : List A} {n : Nat} (past : acts[n]? = none) :
    stateAt step s acts (n+1) = stateAt step s acts n := by
  have bound : acts.length ≤ n := List.getElem?_eq_none_iff.mp past
  simp only [stateAt,List.take_of_length_le bound,List.take_of_length_le (Nat.le_succ_of_le bound)]

/-- What holds at one position, and is kept by each step taken from there on, holds at
every later position. -/
theorem stateAt_from (P : S → Prop) {s : S} {acts : List A} {i j : Nat} (start : P (stateAt step s acts i))
    (keeps : ∀ n act, i ≤ n → n < j → acts[n]? = some act → P (stateAt step s acts n) →
      P (step (stateAt step s acts n) act)) (order : i ≤ j) : P (stateAt step s acts j) := by
  induction order with
  | refl => exact start
  | @step j order ih =>
    have sofar := ih fun n act low high => keeps n act low (Nat.lt_succ_of_lt high)
    cases taken : acts[j]? with
    | none =>
      rw [stateAt_past step s taken]
      exact sofar
    | some act =>
      rw [stateAt_succ step s taken]
      exact keeps j act order (Nat.lt_succ_self j) taken sofar

section Simulation
variable {T : Type} (spec : T → A → T) (abs : S → T)

/-- A forward simulation: abstraction commutes with every admitted step, so the
abstract run tracks the concrete one at every prefix. -/
theorem simulation {P : S → A → Prop} (commutes : ∀ s act, P s act → abs (step s act) = spec (abs s) act)
    {s : S} {acts : List A} (admitted : Along step P s acts) (n : Nat) :
    abs (run step s (acts.take n)) = run spec (abs s) (acts.take n) := by
  induction acts generalizing s n with
  | nil => simp
  | cons act rest ih =>
    cases n with
    | zero => rfl
    | succ n =>
      simp only [List.take_succ_cons,run_cons]
      rw [ih admitted.2 n,commutes s act admitted.1]

/-- Exact simulations: the prefixes agree precisely on the admitted runs. -/
theorem simulation_iff {P : S → A → Prop} (exact_step : ∀ s act, abs (step s act) = spec (abs s) act ↔ P s act)
    (s : S) (acts : List A) :
    (∀ n, abs (run step s (acts.take n)) = run spec (abs s) (acts.take n)) ↔ Along step P s acts := by
  constructor
  · intro tracks
    induction acts generalizing s with
    | nil => trivial
    | cons act rest ih =>
      have first : abs (step s act) = spec (abs s) act := by simpa using tracks 1
      refine ⟨(exact_step s act).mp first,ih (step s act) fun n => ?_⟩
      rw [first]
      exact tracks (n+1)
  · intro admitted n
    exact simulation step spec abs (fun s act ok => (exact_step s act).mpr ok) admitted n

end Simulation
end Transition
