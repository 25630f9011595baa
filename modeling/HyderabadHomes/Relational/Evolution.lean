import HyderabadHomes.Relational.ForeignKey

/-! What any sequence of statements can do to the ids of a table. The sequence only grows,
and an id that is new was drawn from it on the way, so a deleted id never comes back. -/
namespace Relational

variable {α : Type}

theorem Table.ids_le_seq {t : Table α} {id : Int} (member : id ∈ t.ids) : id ≤ t.seq := by
  obtain ⟨row,inside,rfl⟩ := List.mem_map.mp member
  exact t.drawn row inside

theorem Table.mem_ids_keep {t : Table α} {p : Row α → Bool} {id : Int} (member : id ∈ (t.keep p).ids) : id ∈ t.ids := by
  obtain ⟨row,inside,rfl⟩ := List.mem_map.mp member
  exact List.mem_map_of_mem (Table.mem_keep.mp inside).1

theorem Table.mem_ids_iff_find {t : Table α} {id : Int} : id ∈ t.ids ↔ (t.find? id).isSome := by
  rw [Option.isSome_iff_exists]
  constructor
  · intro member
    obtain ⟨row,inside,same⟩ := List.mem_map.mp member
    exact ⟨row,Table.find?_eq_some.mpr ⟨inside,same⟩⟩
  · intro found
    obtain ⟨row,here⟩ := found
    obtain ⟨inside,same⟩ := Table.find?_eq_some.mp here
    exact List.mem_map.mpr ⟨row,inside,same⟩

structure Evolves (before after : Table α) : Prop where
  grown : before.seq ≤ after.seq
  fresh : ∀ id ∈ after.ids, id ∈ before.ids ∨ before.seq < id

namespace Evolves
variable {before middle after : Table α}

theorem refl (t : Table α) : Evolves t t := ⟨Int.le_refl _,fun _ member => .inl member⟩

theorem trans (first : Evolves before middle) (second : Evolves middle after) : Evolves before after where
  grown := Int.le_trans first.grown second.grown
  fresh id member := by
    rcases second.fresh id member with old | new
    · exact first.fresh id old
    · exact .inr (Int.lt_of_le_of_lt first.grown new)

theorem insert (t : Table α) (val : α) : Evolves t (t.insert val) where
  grown := by
    rw [Table.insert_seq]
    omega
  fresh id member := by
    rw [Table.ids_insert,List.mem_append,List.mem_singleton] at member
    rcases member with old | new
    · exact .inl old
    · exact .inr (by omega)

theorem insertAll (t : Table α) (vals : List α) : Evolves t (t.insertAll vals) := by
  induction vals generalizing t with
  | nil => exact refl t
  | cons val rest ih => exact (insert t val).trans (ih (t.insert val))

theorem keep (t : Table α) (p : Row α → Bool) : Evolves t (t.keep p) :=
  ⟨Int.le_refl _,fun _ member => .inl (Table.mem_ids_keep member)⟩

theorem delete (t : Table α) (id : Int) : Evolves t (t.delete id) := keep t _

theorem update (t : Table α) (id : Int) (change : α → α) : Evolves t (t.update id change) :=
  ⟨Int.le_refl _,fun _ member => .inl (by rwa [Table.ids_update] at member)⟩

theorem rewrite (t : Table α) (id : Int) (value : Row α → Option α) : Evolves t (t.rewrite id value) := by
  rcases Table.rewrite_cases t id value with ⟨same,_⟩ | ⟨_,val,_,_,_,moved⟩
  · rw [same]
    exact refl t
  · rw [moved]
    exact update t id _

/-- An id drawn before the start is stored afterwards only if it was stored at the start. -/
theorem mem_of_mem (evolves : Evolves before after) {id : Int} (drawn : id ≤ before.seq) (member : id ∈ after.ids) :
    id ∈ before.ids := by
  rcases evolves.fresh id member with old | new
  · exact old
  · omega

theorem stays_gone (evolves : Evolves before middle) (later : Evolves middle after) {id : Int}
    (stored : id ∈ before.ids) (gone : id ∉ middle.ids) : id ∉ after.ids := fun back =>
  gone (later.mem_of_mem (Int.le_trans (Table.ids_le_seq stored) evolves.grown) back)

end Evolves

/-- A row outlives an update unless the update is for it and gives it a new value. -/
theorem Table.mem_rewrite_iff {t : Table α} {row : Row α} (member : row ∈ t.rows) (id : Int) (value : Row α → Option α) :
    row ∈ (t.rewrite id value).rows ↔ (id = row.id → ∀ val ∈ value row, val = row.val) := by
  rcases Table.rewrite_cases t id value with ⟨same,idle⟩ | ⟨held,val,found,new,other,moved⟩
  · rw [same]
    refine ⟨fun _ here val new => ?_,fun _ => member⟩
    exact idle row val (Table.find?_eq_some.mpr ⟨member,here.symm⟩) new
  · rw [moved,Table.mem_update]
    obtain ⟨inside,hit⟩ := Table.find?_eq_some.mp found
    constructor
    · intro kept here
      obtain ⟨old,_,⟨_,same⟩ | ⟨miss,same⟩⟩ := kept
      · have equal := Table.eq_of_id inside member (hit.trans here)
        rw [equal] at other
        rw [same] at other
        exact absurd rfl other
      · exact absurd (same ▸ here.symm) miss
    · intro spared
      refine ⟨row,member,.inr ⟨fun here => ?_,rfl⟩⟩
      have equal := Table.eq_of_id inside member (hit.trans here.symm)
      rw [equal] at new other
      exact other (spared here.symm val new)

end Relational
