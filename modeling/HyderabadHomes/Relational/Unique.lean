import HyderabadHomes.Relational.Table

/-! Tables without clashing rows, and the single statements that write to them.
A statement keeps a table free of clashes exactly when it writes nothing that clashes
with a row other than its own. -/
namespace Relational

variable {α : Type}

namespace Table

def Unique (clash : α → α → Prop) (t : Table α) : Prop :=
  ∀ row ∈ t.rows, ∀ other ∈ t.rows, clash row.val other.val → row = other

def Free (clash : α → α → Prop) (t : Table α) (self : Option Int) (val : α) : Prop :=
  ∀ row ∈ t.rows, self ≠ some row.id → ¬ clash row.val val

instance (clash : α → α → Prop) [DecidableRel clash] (t : Table α) (self : Option Int) (val : α) :
    Decidable (t.Free clash self val) :=
  inferInstanceAs (Decidable (∀ row ∈ t.rows, self ≠ some row.id → ¬ clash row.val val))

instance (clash : α → α → Prop) [DecidableEq α] [DecidableRel clash] (t : Table α) : Decidable (t.Unique clash) :=
  inferInstanceAs (Decidable (∀ row ∈ t.rows, ∀ other ∈ t.rows, clash row.val other.val → row = other))

variable {clash : α → α → Prop} {t : Table α}

theorem unique_empty : Unique clash (empty : Table α) := by
  intro row member
  cases member

theorem Unique.keep (unique : t.Unique clash) (p : Row α → Bool) : (t.keep p).Unique clash :=
  fun row member other member' same => unique row (mem_keep.mp member).1 other (mem_keep.mp member').1 same

theorem unique_insert_iff [Std.Symm clash] (unique : t.Unique clash) (val : α) :
    (t.insert val).Unique clash ↔ t.Free clash none val := by
  constructor
  · intro unique' row member _ same
    have new := unique' row (mem_insert.mpr (.inl member)) ⟨t.seq+1,val⟩ (mem_insert.mpr (.inr rfl)) same
    rw [new] at member
    exact t.fresh_not_mem val member
  · intro free row member other member' same
    rcases mem_insert.mp member with old | rfl
    · rcases mem_insert.mp member' with old' | rfl
      · exact unique row old other old' same
      · exact absurd same (free row old (by simp))
    · rcases mem_insert.mp member' with old' | rfl
      · exact absurd (Std.Symm.symm _ _ same) (free other old' (by simp))
      · rfl

theorem unique_update_iff [Std.Symm clash] (unique : t.Unique clash) {id : Int} {held : Row α}
    (found : t.find? id = some held) (change : α → α) :
    (t.update id change).Unique clash ↔ t.Free clash (some id) (change held.val) := by
  obtain ⟨inside,hit⟩ := find?_eq_some.mp found
  have moved : (⟨held.id,change held.val⟩ : Row α) ∈ (t.update id change).rows :=
    mem_update.mpr ⟨held,inside,.inl ⟨hit,rfl⟩⟩
  constructor
  · intro unique' row member miss same
    have apart : row.id ≠ id := fun here => miss (by rw [here])
    have equal := unique' row (mem_update.mpr ⟨row,member,.inr ⟨apart,rfl⟩⟩) _ moved same
    rw [equal] at apart
    exact apart hit
  · intro free row member other member' same
    obtain ⟨old,here,⟨at_id,rfl⟩ | ⟨off_id,rfl⟩⟩ := mem_update.mp member
    · obtain ⟨old',here',⟨at_id',rfl⟩ | ⟨off_id',rfl⟩⟩ := mem_update.mp member'
      · rw [eq_of_id here here' (at_id.trans at_id'.symm)]
      · rw [eq_of_id here inside (at_id.trans hit.symm)] at same
        exact absurd (Std.Symm.symm _ _ same) (free other here' (fun self => off_id' (Option.some.inj self).symm))
    · obtain ⟨old',here',⟨at_id',rfl⟩ | ⟨off_id',rfl⟩⟩ := mem_update.mp member'
      · rw [eq_of_id here' inside (at_id'.trans hit.symm)] at same
        exact absurd same (free row here (fun self => off_id (Option.some.inj self).symm))
      · exact unique row here other here' same

end Table

inductive Write (α : Type)
  | insert (val : α)
  | update (id : Int) (change : α → α)
  | delete (id : Int)

namespace Write

def apply : Write α → Table α → Table α
  | .insert val,t => t.insert val
  | .update id change,t => t.update id change
  | .delete id,t => t.delete id

def Harmless (clash : α → α → Prop) (t : Table α) : Write α → Prop
  | .insert val => t.Free clash none val
  | .update id change => ∀ row, t.find? id = some row → t.Free clash (some id) (change row.val)
  | .delete _ => True

def Apart (clash : α → α → Prop) (t : Table α) (self : Option Int) (val : α) : Write α → Prop
  | .insert new => ¬ clash new val
  | .update id change => self = some id ∨ ∀ row, t.find? id = some row → ¬ clash (change row.val) val
  | .delete _ => True

variable {clash : α → α → Prop} {t : Table α}

theorem unique_iff [Std.Symm clash] (unique : t.Unique clash) (w : Write α) :
    (w.apply t).Unique clash ↔ w.Harmless clash t := by
  cases w with
  | insert val => exact Table.unique_insert_iff unique val
  | delete id => exact ⟨fun _ => trivial,fun _ => unique.keep _⟩
  | update id change =>
    cases found : t.find? id with
    | none =>
      have same : t.update id change = t := by
        refine Table.ext_rows ((List.map_congr_left fun row member => ?_).trans (List.map_id' t.rows)) rfl
        rw [if_neg (Table.find?_eq_none.mp found row member)]
      constructor
      · intro _ row here
        rw [found] at here
        cases here
      · intro _
        change (t.update id change).Unique clash
        rw [same]
        exact unique
    | some held =>
      refine (Table.unique_update_iff unique found change).trans ⟨?_,fun free => free held found⟩
      intro free row here
      rw [found] at here
      cases here
      exact free

theorem free_apply {self : Option Int} {val : α} {w : Write α} (free : t.Free clash self val)
    (apart : w.Apart clash t self val) : (w.apply t).Free clash self val := by
  cases w with
  | insert new =>
    intro row member miss
    rcases Table.mem_insert.mp member with old | rfl
    · exact free row old miss
    · exact apart
  | delete id => exact fun row member miss => free row (Table.mem_delete.mp member).1 miss
  | update id change =>
    intro row member miss
    obtain ⟨old,inside,⟨hit,rfl⟩ | ⟨_,rfl⟩⟩ := Table.mem_update.mp member
    · rcases apart with own | other
      · exact absurd (own.trans (by rw [← hit])) miss
      · exact other old (Table.find?_eq_some.mpr ⟨inside,hit⟩)
    · exact free row inside miss

end Write
end Relational
