import Mathlib.Data.List.Nodup
import Mathlib.Data.List.Perm.Basic
import Mathlib.Data.List.Perm.Lattice

/-! SELECT DISTINCT ON without ORDER BY: one row for each key, which row and in what
order being the server's choice. A `DistinctOn` is one such choice. -/
namespace Relational

variable {β κ : Type}

structure IsDistinctOn (key : β → κ) (rows out : List β) : Prop where
  distinct : (out.map key).Nodup
  sound : ∀ row ∈ out, row ∈ rows
  complete : ∀ row ∈ rows, key row ∈ out.map key

structure DistinctOn (key : β → κ) where
  pick : List β → List β
  admissible : ∀ rows, IsDistinctOn key rows (pick rows)

namespace IsDistinctOn
variable {key : β → κ} {rows out : List β}

theorem mem_keys (h : IsDistinctOn key rows out) {k : κ} : k ∈ out.map key ↔ ∃ row ∈ rows, key row = k := by
  constructor
  · intro member
    obtain ⟨row,inside,same⟩ := List.mem_map.mp member
    exact ⟨row,h.sound row inside,same⟩
  · intro kept
    obtain ⟨row,inside,same⟩ := kept
    exact same ▸ h.complete row inside

theorem perm {out' : List β} (h : IsDistinctOn key rows out) (order : out.Perm out') : IsDistinctOn key rows out' where
  distinct := (order.map key).nodup_iff.mp h.distinct
  sound row member := h.sound row (order.mem_iff.mpr member)
  complete row member := (order.map key).mem_iff.mp (h.complete row member)

end IsDistinctOn

namespace DistinctOn
variable [DecidableEq κ] (key : β → κ)

def firsts (seen : List κ) : List β → List β
  | [] => []
  | row :: rest => if key row ∈ seen then firsts seen rest else row :: firsts (key row :: seen) rest

private theorem firsts_spec (rows : List β) : ∀ seen : List κ,
    ((firsts key seen rows).map key).Nodup ∧ (∀ row ∈ firsts key seen rows, row ∈ rows ∧ key row ∉ seen) ∧
      ∀ row ∈ rows, key row ∉ seen → key row ∈ (firsts key seen rows).map key := by
  induction rows with
  | nil => simp [firsts]
  | cons row rest ih =>
    intro seen
    by_cases old : key row ∈ seen
    · obtain ⟨distinct,sound,complete⟩ := ih seen
      simp only [firsts,if_pos old]
      refine ⟨distinct,fun r member => ⟨List.mem_cons_of_mem _ (sound r member).1,(sound r member).2⟩,?_⟩
      intro r member fresh
      rcases List.mem_cons.mp member with same | inside
      · exact absurd (same ▸ old) fresh
      · exact complete r inside fresh
    · obtain ⟨distinct,sound,complete⟩ := ih (key row :: seen)
      simp only [firsts,if_neg old,List.map_cons,List.nodup_cons]
      refine ⟨⟨?_,distinct⟩,?_,?_⟩
      · intro member
        obtain ⟨r,inside,same⟩ := List.mem_map.mp member
        exact (sound r inside).2 (by simp [same])
      · intro r member
        rcases List.mem_cons.mp member with same | inside
        · exact ⟨by simp [same],same ▸ old⟩
        · have := sound r inside
          simp only [List.mem_cons,not_or] at this
          exact ⟨by simp [this.1],this.2.2⟩
      · intro r member fresh
        by_cases here : key r = key row
        · simp [here]
        · rcases List.mem_cons.mp member with same | inside
          · simp [same]
          · have := complete r inside (by simp [here,fresh])
            exact List.mem_cons_of_mem _ this

def first : DistinctOn key where
  pick := firsts key []
  admissible rows :=
    have spec := firsts_spec key rows []
    ⟨spec.1,fun row member => (spec.2.1 row member).1,fun row member => spec.2.2 row member (by simp)⟩

def reversed {key : β → κ} (plan : DistinctOn key) : DistinctOn key where
  pick rows := plan.pick rows.reverse
  admissible rows :=
    have answer := plan.admissible rows.reverse
    ⟨answer.distinct,fun row member => List.mem_reverse.mp (answer.sound row member),
      fun row member => answer.complete row (List.mem_reverse.mpr member)⟩

def endingWith {key : β → κ} (plan : DistinctOn key) (k : κ) : DistinctOn key where
  pick rows := (plan.pick rows).filter (fun row => key row ≠ k) ++ (plan.pick rows).filter (fun row => key row = k)
  admissible rows := by
    apply (plan.admissible rows).perm
    have parts := List.filter_append_perm (fun row => decide (key row = k)) (plan.pick rows)
    refine (parts.symm.trans List.perm_append_comm).trans ?_
    simp

theorem endingWith_getLast {key : β → κ} (plan : DistinctOn key) {k : κ} {rows : List β} {row : β}
    (member : row ∈ rows) (same : key row = k) :
    ∃ last, ((plan.endingWith k).pick rows).getLast? = some last ∧ key last = k := by
  have present := (plan.admissible rows).complete row member
  obtain ⟨kept,inside,equal⟩ := List.mem_map.mp present
  have hit : kept ∈ (plan.pick rows).filter (fun row => key row = k) := by simp [inside,equal,same]
  have nonempty := List.ne_nil_of_mem hit
  refine ⟨List.getLast _ nonempty,?_,?_⟩
  · simp only [endingWith,List.getLast?_append,List.getLast?_eq_some_getLast nonempty]
    rfl
  · simpa using (List.mem_filter.mp (List.getLast_mem nonempty)).2

end DistinctOn
end Relational
