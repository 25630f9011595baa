import HyderabadHomes.Relational.Race

/-! Concurrent requests that insert at most one row each. Under every schedule the table
holds its first rows and one row for each request that has committed: none is lost, and
none is inserted twice. -/
namespace Relational
open Transition

variable {S L R α : Type}

/-- A request goes without a row until the step that inserts its row, and only that step
writes to the table. -/
structure CommitsOnce (init : R → L) (atomic : S → L → S × L) (table : S → Table α) (committed : L → Option (Row α)) :
    Prop where
  fresh : ∀ request, committed (init request) = none
  step : ∀ s l,
    (committed (atomic s l).2 = committed l ∧ (table (atomic s l).1).rows = (table s).rows) ∨
      ∃ row, committed l = none ∧ committed (atomic s l).2 = some row ∧
        (table (atomic s l).1).rows = (table s).rows ++ [row]

theorem filterMap_set_of_same {f : L → Option α} {threads : List L} {i : Nat} {l l' : L} (found : threads[i]? = some l)
    (same : f l' = f l) : (threads.set i l').filterMap f = threads.filterMap f := by
  induction threads generalizing i with
  | nil => cases found
  | cons first rest ih =>
    cases i with
    | zero =>
      cases found
      simp only [List.set_cons_zero,List.filterMap_cons,same]
    | succ i =>
      have later := ih (i := i) (by simpa using found)
      simp only [List.set_cons_succ,List.filterMap_cons,later]

theorem filterMap_set_of_new {f : L → Option α} {threads : List L} {i : Nat} {l l' : L} {a : α}
    (found : threads[i]? = some l) (none : f l = none) (new : f l' = some a) :
    ((threads.set i l').filterMap f).Perm (threads.filterMap f ++ [a]) := by
  induction threads generalizing i with
  | nil => cases found
  | cons first rest ih =>
    cases i with
    | zero =>
      cases found
      simp only [List.set_cons_zero,List.filterMap_cons,none,new]
      exact List.perm_append_singleton a (rest.filterMap f) |>.symm
    | succ i =>
      have later := ih (i := i) (by simpa using found)
      simp only [List.set_cons_succ,List.filterMap_cons]
      cases f first with
      | none => exact later
      | some b => exact later.cons b

namespace CommitsOnce
variable {init : R → L} {atomic : S → L → S × L} {table : S → Table α} {committed : L → Option (Row α)}

def Accounted (table : S → Table α) (committed : L → Option (Row α)) (s : S) (c : Pool S L) : Prop :=
  ∃ new, (table c.shared).rows = (table s).rows ++ new ∧ new.Perm (c.threads.filterMap committed)

theorem pool_step (once : CommitsOnce init atomic table committed) {s : S} (c : Pool S L) (act : Schedule R)
    (accounted : Accounted table committed s c) : Accounted table committed s (Pool.step init atomic c act) := by
  obtain ⟨new,rows,same⟩ := accounted
  cases act with
  | start request =>
    refine ⟨new,rows,?_⟩
    simp only [Pool.step,List.filterMap_append,List.filterMap_cons,once.fresh,List.filterMap_nil,List.append_nil]
    exact same
  | advance i =>
    cases found : c.threads[i]? with
    | none =>
      simp only [Pool.step,found]
      exact ⟨new,rows,same⟩
    | some l =>
      simp only [Pool.step,found]
      rcases once.step c.shared l with ⟨idle,kept⟩ | ⟨row,before,after,inserted⟩
      · refine ⟨new,kept.trans rows,?_⟩
        rw [filterMap_set_of_same found idle]
        exact same
      · refine ⟨new ++ [row],?_,?_⟩
        · rw [inserted,rows,List.append_assoc]
        · exact (same.append_right [row]).trans (filterMap_set_of_new found before after).symm

theorem accounted (once : CommitsOnce init atomic table committed) (s : S) (acts : List (Schedule R)) :
    Accounted table committed s (run (Pool.step init atomic) ⟨s,[]⟩ acts) := by
  have start : Accounted table committed s ⟨s,[]⟩ := ⟨[],by simp,.refl _⟩
  have always := throughout_of_keeps (Pool.step init atomic) once.pool_step start acts
  rw [throughout_iff_take] at always
  simpa using always acts.length

end CommitsOnce

theorem Table.Unique.nodup_map {β : Type} {key : α → β} {t : Table α} (unique : t.Unique fun a b => key a = key b) :
    (t.rows.map fun row => key row.val).Nodup := by
  have rows : t.rows.Nodup := t.distinct.of_map
  exact rows.map_on fun row member other member' same => unique row member other member' same

end Relational
