import HyderabadHomes.Relational.Evolution

/-! Statements that set some columns of a row and leave the others. In any sequence of
them each column ends with the last value that was set in it. -/
namespace Relational

variable {L α β : Type}

structure Sets (col : α → β) (id : Int) (statement : Table α → Table α) (value : Option β) : Prop where
  evolves : ∀ t, Evolves t (statement t)
  column : ∀ t before after, t.find? id = some before → (statement t).find? id = some after →
    col after.val = value.getD (col before.val)

def lastSet (sets : L → Option β) (start : β) (steps : List L) : β := ((steps.filterMap sets).getLast?).getD start

theorem lastSet_cons (sets : L → Option β) (start : β) (l : L) (steps : List L) :
    lastSet sets start (l :: steps) = lastSet sets ((sets l).getD start) steps := by
  unfold lastSet
  cases set : sets l with
  | none => simp [set]
  | some value =>
    rw [List.filterMap_cons_some set,List.getLast?_cons]
    rfl

namespace Sets
variable {col : α → β} {id : Int}

theorem idle : Sets col id (fun t => t) none where
  evolves t := .refl t
  column t before after found found' := by
    rw [found] at found'
    cases found'
    rfl

theorem insert (val : α) : Sets col id (fun t => t.insert val) none where
  evolves t := .insert t val
  column t before after found found' := by
    obtain ⟨inside,here⟩ := Table.find?_eq_some.mp found
    obtain ⟨member,hit⟩ := Table.find?_eq_some.mp found'
    have kept : before ∈ (t.insert val).rows := Table.mem_insert.mpr (.inl inside)
    rw [Table.eq_of_id member kept (hit.trans here.symm)]
    rfl

theorem delete (i : Int) : Sets col id (fun t => t.delete i) none where
  evolves t := .delete t i
  column t before after found found' := by
    obtain ⟨inside,here⟩ := Table.find?_eq_some.mp found
    obtain ⟨member,hit⟩ := Table.find?_eq_some.mp found'
    rw [Table.eq_of_id (Table.mem_delete.mp member).1 inside (hit.trans here.symm)]
    rfl

theorem update (i : Int) {change : α → α} {value : Option β} (sets : ∀ val, col (change val) = value.getD (col val)) :
    Sets col id (fun t => t.update i change) (if i = id then value else none) where
  evolves t := .update t i change
  column t before after found found' := by
    obtain ⟨inside,here⟩ := Table.find?_eq_some.mp found
    obtain ⟨member,hit⟩ := Table.find?_eq_some.mp found'
    obtain ⟨old,present,⟨own,rfl⟩ | ⟨other,rfl⟩⟩ := Table.mem_update.mp member
    · rw [← Table.eq_of_id present inside (hit.trans here.symm),if_pos (own.symm.trans hit)]
      exact sets old.val
    · rw [Table.eq_of_id present inside (hit.trans here.symm),if_neg fun same => other (hit.trans same.symm)]
      rfl

theorem congr {statement statement' : Table α → Table α} {value : Option β} (sets : Sets col id statement value)
    (same : ∀ t, statement t = statement' t) : Sets col id statement' value := by
  rw [← funext same]
  exact sets

/-- Each column of a row that is there at the end has the last value set in it. -/
theorem foldl {step : Table α → L → Table α} {sets : L → Option β} (each : ∀ l, Sets col id (fun t => step t l) (sets l))
    {steps : List L} {t : Table α} {first last : Row α} (before : t.find? id = some first)
    (after : (steps.foldl step t).find? id = some last) : col last.val = lastSet sets (col first.val) steps := by
  induction steps generalizing t first with
  | nil =>
    rw [List.foldl_nil,before] at after
    cases after
    rfl
  | cons l steps ih =>
    have evolves : ∀ (steps : List L) (t : Table α), Evolves t (steps.foldl step t) := by
      intro steps
      induction steps with
      | nil => exact fun t => .refl t
      | cons l steps ih => exact fun t => ((each l).evolves t).trans (ih (step t l))
    have drawn : id ≤ (step t l).seq :=
      Int.le_trans (Table.ids_le_seq (Table.mem_ids_iff_find.mpr (by rw [before]; rfl))) ((each l).evolves t).grown
    have stored : id ∈ (step t l).ids :=
      (evolves steps (step t l)).mem_of_mem drawn (Table.mem_ids_iff_find.mpr (by rw [List.foldl_cons] at after; rw [after]; rfl))
    obtain ⟨middle,found⟩ := Option.isSome_iff_exists.mp (Table.mem_ids_iff_find.mp stored)
    rw [lastSet_cons,← (each l).column t first middle before found]
    exact ih found after

end Sets
end Relational
