import HyderabadHomes.Transition.Footprint

/-! Acts that are delivered more than once. An act that changes nothing when it is taken
twice in a row changes nothing later either, as long as the others pass by what it uses. -/
namespace Transition

variable {S O A ι : Type} {C : ι → Type} {get : S → (i : ι) → C i}

/-- The state after a step has settled once and been changed only out of its sight. -/
theorem Footprint.settled {step : S → S × O} {reads writes : Set ι} (ext : ∀ s t : S, (∀ i, get s i = get t i) → s = t)
    (footprint : Footprint get step reads writes) {s t : S} (twice : (step (step s).1).1 = (step s).1)
    (read : Agree get reads t (step s).1) (written : Agree get writes t (step s).1) : (step t).1 = t := by
  refine ext _ _ fun i => ?_
  by_cases inside : i ∈ writes
  · have same := written i inside
    rw [footprint.effect t (step s).1 read i inside same,twice,same]
  · exact footprint.frame t i inside

/-- Schedules of which the second delivers some acts again, with others in between that
pass by. -/
inductive Redelivered (repeats : A → Prop) (passesBy : A → A → Prop) : List A → List A → Prop
  | refl (acts : List A) : Redelivered repeats passesBy acts acts
  | again (front : List A) (a : A) (between rest : List A) (repeatable : repeats a) (apart : ∀ b ∈ between, passesBy b a) :
      Redelivered repeats passesBy (front ++ a :: (between ++ rest)) (front ++ a :: (between ++ a :: rest))
  | trans {xs ys zs : List A} (first : Redelivered repeats passesBy xs ys) (second : Redelivered repeats passesBy ys zs) :
      Redelivered repeats passesBy xs zs

namespace Footprints
variable {act : S → A → S × O} {reads writes : A → Set ι} {repeats : A → Prop} {passesBy : A → A → Prop}

theorem unmoved (prints : Footprints get act reads writes) {a : A} {between : List A}
    (twice : ∀ s, next act (next act s a) a = next act s a)
    (apart : ∀ b ∈ between, ∀ i ∈ writes b, i ∉ reads a ∧ i ∉ writes a) (s : S) :
    next act (run (next act) (next act s a) between) a = run (next act) (next act s a) between := by
  have kept : ∀ i, (i ∈ reads a ∨ i ∈ writes a) → get (run (next act) (next act s a) between) i = get (next act s a) i := by
    intro i used
    refine prints.untouched (fun b member written => ?_) _
    exact used.elim (apart b member i written).1 (apart b member i written).2
  exact (prints.each a).settled prints.ext (twice s) (fun i member => kept i (.inl member)) fun i member => kept i (.inr member)

/-- Acts delivered again leave the state that they would have left delivered once. -/
theorem redelivered (prints : Footprints get act reads writes)
    (twice : ∀ a, repeats a → ∀ s, next act (next act s a) a = next act s a)
    (apart : ∀ a b, passesBy b a → ∀ i ∈ writes b, i ∉ reads a ∧ i ∉ writes a) {xs ys : List A}
    (again : Redelivered repeats passesBy xs ys) (s : S) : run (next act) s xs = run (next act) s ys := by
  induction again with
  | refl acts => rfl
  | trans _ _ first second => exact first.trans second
  | again front a between rest repeatable passing =>
    simp only [run_append,run_cons]
    rw [prints.unmoved (twice a repeatable) (fun b member => apart a b (passing b member))]

end Footprints
end Transition
