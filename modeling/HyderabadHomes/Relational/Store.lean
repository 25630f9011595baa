import HyderabadHomes.Relational.Table

/-! Id-keyed stores: what a table is once the order of its rows is forgotten. -/
namespace Relational

variable {α : Type}

@[ext] structure Store (α : Type) where
  cell : Int → Option α
  next : Int

namespace Store

def add (s : Store α) (val : α) : Store α := ⟨fun id => if id = s.next then some val else s.cell id,s.next+1⟩

def set (s : Store α) (id : Int) (val : α) : Store α := ⟨fun i => if i = id then some val else s.cell i,s.next⟩

def remove (s : Store α) (id : Int) : Store α := ⟨fun i => if i = id then none else s.cell i,s.next⟩

end Store

namespace Table

def store (t : Table α) : Store α := ⟨fun id => (t.find? id).map Row.val,t.seq+1⟩

theorem store_cell {t : Table α} {id : Int} {val : α} : t.store.cell id = some val ↔ (⟨id,val⟩ : Row α) ∈ t.rows := by
  simp only [store,Option.map_eq_some_iff,find?_eq_some]
  constructor
  · intro kept
    obtain ⟨row,⟨member,hit⟩,same⟩ := kept
    cases row
    cases hit
    cases same
    exact member
  · intro member
    exact ⟨_,⟨member,rfl⟩,rfl⟩

theorem store_cell_none {t : Table α} {id : Int} : t.store.cell id = none ↔ t.find? id = none := by
  simp [store]

theorem store_insert (t : Table α) (val : α) : (t.insert val).store = t.store.add val := by
  ext id v
  · simp only [store_cell,mem_insert,Store.add]
    by_cases fresh : id = t.seq+1
    · have missing : (⟨id,v⟩ : Row α) ∉ t.rows := fresh ▸ fresh_not_mem t v
      simp [store,fresh,eq_comm]
      intro member
      exact absurd (fresh ▸ member) missing
    · have other : id ≠ t.store.next := fresh
      rw [if_neg other,store_cell]
      simp [fresh]
  · rfl

theorem store_delete (t : Table α) (id : Int) : (t.delete id).store = t.store.remove id := by
  ext i v
  · simp only [store_cell,mem_delete,Store.remove]
    by_cases hit : i = id
    · simp [hit]
    · rw [if_neg hit,store_cell]
      simp [hit]
  · rfl

theorem store_update {t : Table α} {id : Int} {row : Row α} (found : t.find? id = some row) (val : α) :
    (t.update id fun _ => val).store = t.store.set id val := by
  obtain ⟨member,here⟩ := find?_eq_some.mp found
  ext i v
  · simp only [store_cell,mem_update,Store.set]
    by_cases hit : i = id
    · rw [if_pos hit]
      constructor
      · intro held
        obtain ⟨old,_,moved⟩ := held
        rcases moved with ⟨_,same⟩ | ⟨miss,same⟩
        · cases same
          rfl
        · cases same
          exact absurd hit miss
      · intro same
        cases same
        exact ⟨row,member,.inl ⟨here,by rw [here,hit]⟩⟩
    · rw [if_neg hit,store_cell]
      constructor
      · intro held
        obtain ⟨old,inside,moved⟩ := held
        rcases moved with ⟨same,moved⟩ | ⟨_,same⟩
        · have : i = old.id := congrArg Row.id moved
          exact absurd (this.trans same) hit
        · exact same ▸ inside
      · intro inside
        exact ⟨_,inside,.inr ⟨hit,rfl⟩⟩
  · rfl

theorem insert_store_ne (t : Table α) (val : α) : (t.insert val).store ≠ t.store := by
  intro same
  have next : t.seq+1+1 = t.seq+1 := congrArg Store.next same
  omega

theorem delete_store_eq_iff (t : Table α) (id : Int) : (t.delete id).store = t.store ↔ t.find? id = none := by
  constructor
  · intro same
    have gone : (t.delete id).store.cell id = none := by
      rw [store_delete]
      exact if_pos rfl
    rw [same] at gone
    exact store_cell_none.mp gone
  · intro missing
    rw [delete_missing missing]

theorem rewrite_store_eq_iff (t : Table α) (id : Int) (value : Row α → Option α) :
    (t.rewrite id value).store = t.store ↔
      ∀ row val, t.find? id = some row → value row = some val → val = row.val := by
  rcases rewrite_cases t id value with ⟨same,idle⟩ | ⟨row,val,found,new,other,moved⟩
  · rw [same]
    exact ⟨fun _ => idle,fun _ => rfl⟩
  · rw [moved]
    constructor
    · intro same
      have here : (t.update id fun _ => val).store.cell id = some val := by
        rw [store_update found]
        exact if_pos rfl
      have held : t.store.cell id = some row.val := by simp [store,found]
      rw [same,held] at here
      exact absurd (Option.some.inj here).symm other
    · intro idle
      exact absurd (idle row val found new) other

end Table
end Relational
