import HyderabadHomes.Relational.Unique

/-! Constraints on the single rows of a table, and when each operation keeps one. -/
namespace Relational

variable {α : Type}

namespace Table

def Check (P : α → Prop) (t : Table α) : Prop := ∀ row ∈ t.rows, P row.val

namespace Check
variable {P : α → Prop} {t : Table α}

theorem empty : (Table.empty : Table α).Check P := by
  intro row member
  cases member

theorem insert (check : t.Check P) {val : α} (ok : P val) : (t.insert val).Check P := by
  intro row member
  rcases mem_insert.mp member with old | rfl
  · exact check row old
  · exact ok

theorem insertAll (check : t.Check P) {vals : List α} (ok : ∀ val ∈ vals, P val) : (t.insertAll vals).Check P := by
  intro row member
  rcases mem_insertAll member with old | new
  · exact check row old
  · exact ok row.val new

theorem keep (check : t.Check P) (p : Row α → Bool) : (t.keep p).Check P :=
  fun row member => check row (mem_keep.mp member).1

theorem delete (check : t.Check P) (id : Int) : (t.delete id).Check P := check.keep _

theorem update (check : t.Check P) (id : Int) {val : α} (ok : P val) : (t.update id fun _ => val).Check P := by
  intro row member
  obtain ⟨old,inside,⟨_,rfl⟩ | ⟨_,rfl⟩⟩ := mem_update.mp member
  · exact ok
  · exact check row inside

theorem rewrite (check : t.Check P) (id : Int) {value : Row α → Option α}
    (ok : ∀ row val, t.find? id = some row → value row = some val → P val) : (t.rewrite id value).Check P := by
  rcases rewrite_cases t id value with ⟨same,_⟩ | ⟨row,val,found,new,_,moved⟩
  · rw [same]
    exact check
  · rw [moved]
    exact check.update id (ok row val found new)

end Check

theorem Unique.delete {clash : α → α → Prop} {t : Table α} (unique : t.Unique clash) (id : Int) :
    (t.delete id).Unique clash := unique.keep _

theorem Unique.rewrite {clash : α → α → Prop} [Std.Symm clash] {t : Table α} (unique : t.Unique clash) (id : Int)
    {value : Row α → Option α} (free : ∀ row val, t.find? id = some row → value row = some val → t.Free clash (some id) val) :
    (t.rewrite id value).Unique clash := by
  rcases rewrite_cases t id value with ⟨same,_⟩ | ⟨row,val,found,new,_,moved⟩
  · rw [same]
    exact unique
  · rw [moved]
    exact (unique_update_iff unique found _).mpr (free row val found new)

end Table
end Relational
