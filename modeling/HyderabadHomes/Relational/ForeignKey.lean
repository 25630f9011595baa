import HyderabadHomes.Relational.Table

/-! Columns that refer to the rows of another table, and what each operation on either
side does to them. The database declares no such constraint; these are its terms. -/
namespace Relational

variable {α β : Type}

def Table.ids (t : Table α) : List Int := t.rows.map Row.id

theorem Table.ids_insert (t : Table α) (val : α) : (t.insert val).ids = t.ids ++ [t.seq+1] := by
  simp [Table.ids]

theorem Table.ids_update (t : Table α) (id : Int) (change : α → α) : (t.update id change).ids = t.ids := by
  unfold Table.ids Table.update
  rw [List.map_map]
  apply List.map_congr_left
  intro row _
  by_cases hit : row.id = id <;> simp [hit]

theorem Table.mem_ids_insert {t : Table α} {id : Int} (val : α) (member : id ∈ t.ids) : id ∈ (t.insert val).ids := by
  rw [Table.ids_insert]
  exact List.mem_append_left _ member

theorem Table.mem_ids_update {t : Table α} {id : Int} (i : Int) (change : α → α) (member : id ∈ t.ids) :
    id ∈ (t.update i change).ids := by
  rw [Table.ids_update]
  exact member

theorem Table.ids_rewrite (t : Table α) (id : Int) (value : Row α → Option α) : (t.rewrite id value).ids = t.ids := by
  rcases Table.rewrite_cases t id value with ⟨same,_⟩ | ⟨_,val,_,_,_,moved⟩
  · rw [same]
  · rw [moved,Table.ids_update]

theorem Table.mem_ids_delete {t : Table α} {id i : Int} : i ∈ (t.delete id).ids ↔ i ∈ t.ids ∧ i ≠ id := by
  simp only [Table.ids,List.mem_map,Table.mem_delete]
  constructor
  · intro kept
    obtain ⟨row,⟨member,other⟩,same⟩ := kept
    exact ⟨⟨row,member,same⟩,same ▸ other⟩
  · intro kept
    obtain ⟨⟨row,member,same⟩,other⟩ := kept
    exact ⟨row,⟨member,same ▸ other⟩,same⟩

def Refers (key : Option Int) (t : Table α) : Prop := ∃ row ∈ t.rows, key = some row.id

theorem refers_iff_ids {key : Option Int} {t : Table α} : Refers key t ↔ ∃ id ∈ t.ids, key = some id := by
  simp [Refers,Table.ids]

theorem refers_iff_find {key : Option Int} {t : Table α} : Refers key t ↔ ∃ row, key.bind t.find? = some row := by
  constructor
  · intro refers
    obtain ⟨row,member,same⟩ := refers
    exact ⟨row,by simp [same,Table.find?_eq_some.mpr ⟨member,rfl⟩]⟩
  · intro read
    obtain ⟨row,found⟩ := read
    cases key with
    | none => cases found
    | some id =>
      obtain ⟨member,same⟩ := Table.find?_eq_some.mp found
      exact ⟨row,member,by rw [same]⟩

theorem Refers.mono {key : Option Int} {s t : Table α} (kept : ∀ id ∈ s.ids, id ∈ t.ids) (refers : Refers key s) :
    Refers key t := by
  obtain ⟨id,member,same⟩ := refers_iff_ids.mp refers
  exact refers_iff_ids.mpr ⟨id,kept id member,same⟩

def ForeignKey (key : α → Option Int) (child : Table α) (parent : Table β) : Prop :=
  ∀ row ∈ child.rows, Refers (key row.val) parent

namespace ForeignKey
variable {key : α → Option Int} {child child' : Table α} {parent parent' : Table β}

theorem empty (parent : Table β) : ForeignKey key Table.empty parent := by
  intro row member
  cases member

theorem child_subset (holds : ForeignKey key child parent) (subset : ∀ row ∈ child'.rows, row ∈ child.rows) :
    ForeignKey key child' parent := fun row member => holds row (subset row member)

theorem parent_mono (holds : ForeignKey key child parent) (kept : ∀ id ∈ parent.ids, id ∈ parent'.ids) :
    ForeignKey key child parent' := fun row member => (holds row member).mono kept

theorem insert_parent (holds : ForeignKey key child parent) (val : β) : ForeignKey key child (parent.insert val) :=
  holds.parent_mono fun _ => Table.mem_ids_insert val

theorem update_parent (holds : ForeignKey key child parent) (id : Int) (change : β → β) :
    ForeignKey key child (parent.update id change) := holds.parent_mono fun _ => Table.mem_ids_update id change

theorem delete_child (holds : ForeignKey key child parent) (id : Int) : ForeignKey key (child.delete id) parent :=
  holds.child_subset fun _ member => (Table.mem_delete.mp member).1

theorem insert_child_iff (holds : ForeignKey key child parent) (val : α) :
    ForeignKey key (child.insert val) parent ↔ Refers (key val) parent := by
  constructor
  · intro after
    exact after ⟨child.seq+1,val⟩ (Table.mem_insert.mpr (.inr rfl))
  · intro refers row member
    rcases Table.mem_insert.mp member with old | new
    · exact holds row old
    · rw [new]
      exact refers

theorem insertAll_child (holds : ForeignKey key child parent) {vals : List α}
    (refers : ∀ val ∈ vals, Refers (key val) parent) : ForeignKey key (child.insertAll vals) parent := by
  intro row member
  rcases Table.mem_insertAll member with old | new
  · exact holds row old
  · exact refers row.val new

/-- Values that repeat the key of a row refer wherever that row does. -/
theorem insertAll_repeats (holds : ForeignKey key child parent) {vals : List α}
    (repeats : ∀ val ∈ vals, ∃ row ∈ child.rows, key val = key row.val) :
    ForeignKey key (child.insertAll vals) parent := by
  apply holds.insertAll_child
  intro val member
  obtain ⟨row,inside,same⟩ := repeats val member
  rw [same]
  exact holds row inside

theorem rewrite_child_iff (holds : ForeignKey key child parent) (id : Int) (value : Row α → Option α) :
    ForeignKey key (child.rewrite id value) parent ↔
      ∀ row val, child.find? id = some row → value row = some val → Refers (key val) parent := by
  rcases Table.rewrite_cases child id value with ⟨same,idle⟩ | ⟨row,val,found,new,_,moved⟩
  · rw [same]
    refine ⟨fun _ row val found new => ?_,fun _ => holds⟩
    rw [idle row val found new]
    exact holds row (Table.find?_eq_some.mp found).1
  · obtain ⟨member,hit⟩ := Table.find?_eq_some.mp found
    rw [moved]
    constructor
    · intro after row' val' found' new'
      cases found.symm.trans found'
      cases new.symm.trans new'
      exact after ⟨row.id,val⟩ (Table.mem_update.mpr ⟨row,member,.inl ⟨hit,rfl⟩⟩)
    · intro refers other inside
      obtain ⟨old,before,⟨_,same⟩ | ⟨_,same⟩⟩ := Table.mem_update.mp inside
      · rw [same]
        exact refers row val found new
      · rw [same]
        exact holds old before

/-- A parent row can go exactly when no child refers to it. -/
theorem delete_parent_iff (holds : ForeignKey key child parent) (id : Int) :
    ForeignKey key child (parent.delete id) ↔ ∀ row ∈ child.rows, key row.val ≠ some id := by
  constructor
  · intro after row member same
    obtain ⟨i,kept,refers⟩ := refers_iff_ids.mp (after row member)
    rw [same] at refers
    cases refers
    exact (Table.mem_ids_delete.mp kept).2 rfl
  · intro unreferenced row member
    obtain ⟨i,present,refers⟩ := refers_iff_ids.mp (holds row member)
    refine refers_iff_ids.mpr ⟨i,Table.mem_ids_delete.mpr ⟨present,?_⟩,refers⟩
    intro same
    exact unreferenced row member (same ▸ refers)

/-- With a parent row go children that were picked before; no other may refer to it. -/
theorem delete_family_iff (holds : ForeignKey key child parent) (kept : Row α → Bool) (id : Int) :
    ForeignKey key (child.keep kept) (parent.delete id) ↔
      ∀ row ∈ child.rows, kept row = true → key row.val ≠ some id := by
  rw [delete_parent_iff (holds.child_subset fun row member => (Table.mem_keep.mp member).1)]
  constructor
  · intro free row member stays
    exact free row (Table.mem_keep.mpr ⟨member,stays⟩)
  · intro free row member
    obtain ⟨inside,stays⟩ := Table.mem_keep.mp member
    exact free row inside stays

end ForeignKey
end Relational
