import HyderabadHomes.Transition.Run

/-! Interleavings of requests that each take several atomic steps on a shared state.
A pool holds the local state of every request started so far; the scheduler may
start a request or advance any of them at any time. `Pool.inductive_step` is the
usual proof rule: a shared invariant together with one assertion for each local
state, which its own steps establish and the steps of the others do not disturb. -/
namespace Transition

structure Pool (S L : Type) where
  shared : S
  threads : List L

inductive Schedule (R : Type)
  | start (request : R)
  | advance (i : Nat)

namespace Pool
variable {S L R : Type} (init : R → L) (atomic : S → L → S × L)

def step (c : Pool S L) : Schedule R → Pool S L
  | .start request => ⟨c.shared,c.threads ++ [init request]⟩
  | .advance i =>
    match c.threads[i]? with
    | none => c
    | some l => ⟨(atomic c.shared l).1,c.threads.set i (atomic c.shared l).2⟩

def alone : Nat → S × L → S × L
  | 0,c => c
  | n+1,c => alone n (atomic c.1 c.2)

variable {init atomic} in
theorem alone_of_fixed {s : S} {l : L} (fixed : atomic s l = (s,l)) (n : Nat) : alone atomic n (s,l) = (s,l) := by
  induction n with
  | zero => rfl
  | succ n ih => rw [alone,fixed,ih]

def Holds (I : S → Prop) (A : L → S → Prop) (c : Pool S L) : Prop :=
  I c.shared ∧ ∀ l ∈ c.threads, A l c.shared

private theorem mem_set_cases {threads : List L} {i : Nat} {new m : L} (member : m ∈ threads.set i new) :
    m = new ∨ ∃ j, j ≠ i ∧ threads[j]? = some m := by
  obtain ⟨j,bound,value⟩ := List.mem_iff_getElem.mp member
  rw [List.getElem_set] at value
  by_cases here : i = j
  · exact .inl (by simpa [here] using value.symm)
  · have inside : j < threads.length := by simpa using bound
    refine .inr ⟨j,fun h => here h.symm,?_⟩
    rw [if_neg here] at value
    exact List.getElem?_eq_some_iff.mpr ⟨inside,value⟩

/-- One scheduled step preserves the invariant and every assertion, provided starting
is free, own steps establish their assertion and no step interferes with another request's. -/
theorem inductive_step {I : S → Prop} {A : L → S → Prop} {P : Pool S L → Schedule R → Prop}
    (starts : ∀ request s, I s → A (init request) s)
    (own : ∀ c i l, P c (.advance i) → c.threads[i]? = some l → I c.shared → A l c.shared →
      I (atomic c.shared l).1 ∧ A (atomic c.shared l).2 (atomic c.shared l).1)
    (others : ∀ c i j l m, P c (.advance i) → c.threads[i]? = some l → c.threads[j]? = some m → i ≠ j →
      I c.shared → A l c.shared → A m c.shared → A m (atomic c.shared l).1)
    (c : Pool S L) (act : Schedule R) (holds : Holds I A c) (admitted : P c act) :
    Holds I A (step init atomic c act) := by
  obtain ⟨inv,assertions⟩ := holds
  cases act with
  | start request =>
    refine ⟨inv,fun l member => ?_⟩
    rcases List.mem_append.mp member with old | new
    · exact assertions l old
    · rw [List.mem_singleton.mp new]
      exact starts request _ inv
  | advance i =>
    cases found : c.threads[i]? with
    | none =>
      simp only [step,found]
      exact ⟨inv,assertions⟩
    | some l =>
      have here := assertions l (List.mem_of_getElem? found)
      have done := own c i l admitted found inv here
      simp only [step,found]
      refine ⟨done.1,fun m member => ?_⟩
      rcases mem_set_cases member with rfl | ⟨j,apart,other⟩
      · exact done.2
      · exact others c i j l m admitted found other (fun h => apart h.symm) inv here
          (assertions m (List.mem_of_getElem? other))

def taken : Pool S L → List (Schedule R) → List L
  | _,[] => []
  | c,.start request :: rest => taken (step init atomic c (.start request)) rest
  | c,.advance i :: rest => (c.threads[i]?).toList ++ taken (step init atomic c (.advance i)) rest

/-- The shared state of an interleaved run is that of its steps one after the other. -/
theorem shared_run (c : Pool S L) (acts : List (Schedule R)) :
    (run (step init atomic) c acts).shared = (taken init atomic c acts).foldl (fun s l => (atomic s l).1) c.shared := by
  induction acts generalizing c with
  | nil => rfl
  | cons act rest ih =>
    rw [run_cons,ih]
    cases act with
    | start request => rfl
    | advance i =>
      simp only [taken,List.foldl_append]
      cases found : c.threads[i]? with
      | none => simp [step,found]
      | some l => simp [step,found]

end Pool
end Transition
