import HyderabadHomes.Relational.Table

/-! Tables whose rows have owners, seen from one requester: what the requester does not
own stays as it is, and what is new or changed is the requester's. -/
namespace Relational

variable {α κ : Type}

def Owns (requester owner : Option κ) : Prop := ∃ k, requester = some k ∧ owner = some k

@[simp] theorem owns_none (owner : Option κ) : ¬ Owns none owner := by
  intro owns
  obtain ⟨k,same,_⟩ := owns
  cases same

@[simp] theorem owns_some (k : κ) (owner : Option κ) : Owns (some k) owner ↔ owner = some k := by
  constructor
  · intro owns
    obtain ⟨k',same,owned⟩ := owns
    rw [same,owned]
  · intro owned
    exact ⟨k,rfl,owned⟩

instance [DecidableEq κ] (requester owner : Option κ) : Decidable (Owns requester owner) :=
  match requester with
  | none => .isFalse (owns_none owner)
  | some k => decidable_of_iff (owner = some k) (owns_some k owner).symm

structure Isolated (owner : α → Option κ) (requester : Option κ) (before after : Table α) : Prop where
  kept : ∀ row ∈ before.rows, ¬ Owns requester (owner row.val) → row ∈ after.rows
  stamped : ∀ row ∈ after.rows, row ∉ before.rows → Owns requester (owner row.val)

namespace Isolated
variable {owner : α → Option κ} {requester : Option κ}

theorem refl (t : Table α) : Isolated owner requester t t :=
  ⟨fun _ member _ => member,fun _ member new => absurd member new⟩

theorem trans {a b c : Table α} (first : Isolated owner requester a b) (second : Isolated owner requester b c) :
    Isolated owner requester a c where
  kept row member foreign := second.kept row (first.kept row member foreign) foreign
  stamped row member new := by
    by_cases old : row ∈ b.rows
    · exact first.stamped row old new
    · exact second.stamped row member old

theorem insert {t : Table α} {val : α} (owned : Owns requester (owner val)) :
    Isolated owner requester t (t.insert val) where
  kept row member _ := Table.mem_insert.mpr (.inl member)
  stamped row member new := by
    rcases Table.mem_insert.mp member with old | fresh
    · exact absurd old new
    · rw [fresh]
      exact owned

theorem insertAll {vals : List α} (owned : ∀ val ∈ vals, Owns requester (owner val)) (t : Table α) :
    Isolated owner requester t (t.insertAll vals) := by
  induction vals generalizing t with
  | nil => exact refl t
  | cons val rest ih =>
    have first : Isolated owner requester t (t.insert val) := insert (owned val (by simp))
    exact first.trans (ih (fun later member => owned later (by simp [member])) (t.insert val))

theorem delete_iff (t : Table α) (id : Int) :
    Isolated owner requester t (t.delete id) ↔
      ∀ row, t.find? id = some row → Owns requester (owner row.val) := by
  constructor
  · intro isolated row found
    obtain ⟨member,hit⟩ := Table.find?_eq_some.mp found
    by_contra foreign
    exact (Table.mem_delete.mp (isolated.kept row member foreign)).2 hit
  · intro owned
    constructor
    · intro row member foreign
      refine Table.mem_delete.mpr ⟨member,fun hit => foreign ?_⟩
      exact owned row (Table.find?_eq_some.mpr ⟨member,hit⟩)
    · intro row member new
      exact absurd (Table.mem_delete.mp member).1 new

theorem update_iff {t : Table α} {id : Int} {row : Row α} {stored : α} (found : t.find? id = some row)
    (changed : stored ≠ row.val) :
    Isolated owner requester t (t.update id fun _ => stored) ↔
      Owns requester (owner row.val) ∧ Owns requester (owner stored) := by
  obtain ⟨member,hit⟩ := Table.find?_eq_some.mp found
  have moved : (⟨row.id,stored⟩ : Row α) ∈ (t.update id fun _ => stored).rows :=
    Table.mem_update.mpr ⟨row,member,.inl ⟨hit,rfl⟩⟩
  constructor
  · intro isolated
    constructor
    · by_contra foreign
      obtain ⟨old,inside,⟨_,same⟩ | ⟨miss,same⟩⟩ := Table.mem_update.mp (isolated.kept row member foreign)
      · exact changed (congrArg Row.val same).symm
      · exact miss (same ▸ hit)
    · refine isolated.stamped _ moved fun old => changed ?_
      exact congrArg Row.val (Table.eq_of_id old member rfl)
  · intro both
    obtain ⟨owned,ownedAfter⟩ := both
    constructor
    · intro other inside foreign
      refine Table.mem_update.mpr ⟨other,inside,.inr ⟨fun same => foreign ?_,rfl⟩⟩
      rw [Table.eq_of_id inside member (same.trans hit.symm)]
      exact owned
    · intro other inside new
      obtain ⟨old,before,⟨_,same⟩ | ⟨_,same⟩⟩ := Table.mem_update.mp inside
      · rw [same]
        exact ownedAfter
      · exact absurd (same ▸ before) new

theorem rewrite_iff (t : Table α) (id : Int) (value : Row α → Option α) :
    Isolated owner requester t (t.rewrite id value) ↔
      ∀ row val, t.find? id = some row → value row = some val → val ≠ row.val →
        Owns requester (owner row.val) ∧ Owns requester (owner val) := by
  rcases Table.rewrite_cases t id value with ⟨same,idle⟩ | ⟨row,val,found,new,changed,moved⟩
  · rw [same]
    constructor
    · intro _ row val found new changed
      exact absurd (idle row val found new) changed
    · intro _
      exact refl t
  · rw [moved,update_iff found changed]
    constructor
    · intro owned row' val' found' new' _
      cases found.symm.trans found'
      cases new.symm.trans new'
      exact owned
    · intro owned
      exact owned row val found new changed

end Isolated
end Relational
