import Mathlib.Data.List.Nodup
import Mathlib.Data.List.Basic

/-! Tables keyed by a primary key drawn from an increasing sequence.
The key constraint and the sequence bound are fields, so no operation below can
produce a table with two rows of one id or with an id the sequence has yet to draw. -/
namespace Relational

structure Row (α : Type) where
  id : Int
  val : α
deriving DecidableEq,Repr

structure Table (α : Type) where
  rows : List (Row α)
  seq : Int
  distinct : (rows.map Row.id).Nodup
  drawn : ∀ row ∈ rows, row.id ≤ seq
deriving DecidableEq

namespace Table
variable {α : Type}

theorem ext_rows {s t : Table α} (rows : s.rows = t.rows) (seq : s.seq = t.seq) : s = t := by
  cases s; cases t
  cases rows; cases seq
  rfl

def empty : Table α := ⟨[],0,by simp,by simp⟩

def find? (t : Table α) (id : Int) : Option (Row α) := t.rows.find? (fun row => row.id == id)

def insert (t : Table α) (val : α) : Table α where
  rows := t.rows ++ [⟨t.seq+1,val⟩]
  seq := t.seq+1
  distinct := by
    rw [List.map_append,List.nodup_append]
    refine ⟨t.distinct,by simp,?_⟩
    intro a old b new same
    obtain ⟨row,member,rfl⟩ := List.mem_map.mp old
    have bound := t.drawn row member
    simp at new
    omega
  drawn := by
    intro row member
    rcases List.mem_append.mp member with old | new
    · have := t.drawn row old
      omega
    · simp at new
      simp [new]

def keep (t : Table α) (p : Row α → Bool) : Table α where
  rows := t.rows.filter p
  seq := t.seq
  distinct := t.distinct.sublist (List.filter_sublist.map Row.id)
  drawn := fun row member => t.drawn row (List.mem_filter.mp member).1

def delete (t : Table α) (id : Int) : Table α := t.keep (fun row => row.id != id)

def update (t : Table α) (id : Int) (change : α → α) : Table α where
  rows := t.rows.map (fun row => if row.id = id then ⟨row.id,change row.val⟩ else row)
  seq := t.seq
  distinct := by
    have ids : (t.rows.map (fun row => if row.id = id then ⟨row.id,change row.val⟩ else row)).map Row.id =
        t.rows.map Row.id := by
      rw [List.map_map]
      apply List.map_congr_left
      intro row _
      by_cases hit : row.id = id <;> simp [hit]
    rw [ids]
    exact t.distinct
  drawn := by
    intro row member
    obtain ⟨old,inside,rfl⟩ := List.mem_map.mp member
    have bound := t.drawn old inside
    by_cases hit : old.id = id <;> simpa [hit] using bound

@[simp] theorem insert_rows (t : Table α) (val : α) : (t.insert val).rows = t.rows ++ [⟨t.seq+1,val⟩] := rfl
@[simp] theorem insert_seq (t : Table α) (val : α) : (t.insert val).seq = t.seq+1 := rfl
@[simp] theorem delete_seq (t : Table α) (id : Int) : (t.delete id).seq = t.seq := rfl
@[simp] theorem update_seq (t : Table α) (id : Int) (change : α → α) : (t.update id change).seq = t.seq := rfl

theorem mem_insert {t : Table α} {val : α} {row : Row α} :
    row ∈ (t.insert val).rows ↔ row ∈ t.rows ∨ row = ⟨t.seq+1,val⟩ := by
  simp

theorem mem_keep {t : Table α} {p : Row α → Bool} {row : Row α} :
    row ∈ (t.keep p).rows ↔ row ∈ t.rows ∧ p row := List.mem_filter

theorem mem_delete {t : Table α} {id : Int} {row : Row α} :
    row ∈ (t.delete id).rows ↔ row ∈ t.rows ∧ row.id ≠ id := by
  simp [delete,mem_keep]

theorem mem_update {t : Table α} {id : Int} {change : α → α} {row : Row α} :
    row ∈ (t.update id change).rows ↔
      ∃ old ∈ t.rows, (old.id = id ∧ row = ⟨old.id,change old.val⟩) ∨ (old.id ≠ id ∧ row = old) := by
  simp only [update,List.mem_map]
  constructor
  · intro mapped
    obtain ⟨old,member,rfl⟩ := mapped
    by_cases hit : old.id = id
    · exact ⟨old,member,.inl ⟨hit,by simp [hit]⟩⟩
    · exact ⟨old,member,.inr ⟨hit,by simp [hit]⟩⟩
  · intro source
    obtain ⟨old,member,⟨hit,rfl⟩ | ⟨miss,rfl⟩⟩ := source
    · exact ⟨old,member,by simp [hit]⟩
    · exact ⟨row,member,by simp [miss]⟩

theorem eq_of_id {t : Table α} {r s : Row α} (hr : r ∈ t.rows) (hs : s ∈ t.rows) (same : r.id = s.id) : r = s :=
  List.inj_on_of_nodup_map t.distinct hr hs same

theorem find?_eq_some {t : Table α} {id : Int} {row : Row α} :
    t.find? id = some row ↔ row ∈ t.rows ∧ row.id = id := by
  constructor
  · intro found
    exact ⟨List.mem_of_find?_eq_some found,by simpa using List.find?_some found⟩
  · intro stored
    obtain ⟨member,rfl⟩ := stored
    cases found : t.find? row.id with
    | none => simpa using List.find?_eq_none.mp found row member
    | some other =>
      have hit : other.id = row.id := by simpa using List.find?_some found
      rw [eq_of_id (List.mem_of_find?_eq_some found) member hit]

theorem find?_eq_none {t : Table α} {id : Int} : t.find? id = none ↔ ∀ row ∈ t.rows, row.id ≠ id := by
  simp [find?,List.find?_eq_none]

theorem fresh_not_mem (t : Table α) (val : α) : (⟨t.seq+1,val⟩ : Row α) ∉ t.rows := by
  intro member
  have bound : t.seq+1 ≤ t.seq := t.drawn _ member
  omega

theorem insert_rows_ne (t : Table α) (val : α) : (t.insert val).rows ≠ t.rows := by
  intro same
  have := congrArg List.length same
  simp at this

theorem delete_missing {t : Table α} {id : Int} (missing : t.find? id = none) : t.delete id = t := by
  refine ext_rows (List.filter_eq_self.mpr fun row member => ?_) rfl
  simpa using find?_eq_none.mp missing row member

theorem delete_rows_ne {t : Table α} {id : Int} {row : Row α} (found : t.find? id = some row) :
    (t.delete id).rows ≠ t.rows := by
  intro same
  obtain ⟨member,hit⟩ := find?_eq_some.mp found
  rw [← same] at member
  exact (mem_delete.mp member).2 hit

def insertAll (t : Table α) (vals : List α) : Table α := vals.foldl insert t

@[simp] theorem insertAll_nil (t : Table α) : t.insertAll [] = t := rfl
@[simp] theorem insertAll_cons (t : Table α) (val : α) (rest : List α) :
    t.insertAll (val :: rest) = (t.insert val).insertAll rest := rfl

/-- The rows inserted come after the old ones, in order and under new ids. -/
theorem insertAll_rows (t : Table α) (vals : List α) :
    ∃ new, (t.insertAll vals).rows = t.rows ++ new ∧ new.map Row.val = vals ∧ ∀ row ∈ new, t.seq < row.id := by
  induction vals generalizing t with
  | nil => exact ⟨[],by simp,rfl,by simp⟩
  | cons val rest ih =>
    obtain ⟨new,rows,same,above⟩ := ih (t.insert val)
    refine ⟨⟨t.seq+1,val⟩ :: new,by simp [rows],by simp [same],?_⟩
    intro row member
    rcases List.mem_cons.mp member with here | later
    · simp only [here]
      omega
    · have := above row later
      simp at this
      omega

theorem mem_insertAll {t : Table α} {vals : List α} {row : Row α} (member : row ∈ (t.insertAll vals).rows) :
    row ∈ t.rows ∨ row.val ∈ vals := by
  obtain ⟨new,rows,same,_⟩ := insertAll_rows t vals
  rw [rows,List.mem_append] at member
  rcases member with old | fresh
  · exact .inl old
  · exact .inr (same ▸ List.mem_map_of_mem fresh)

theorem mem_insertAll_of_mem {t : Table α} (vals : List α) {row : Row α} (member : row ∈ t.rows) :
    row ∈ (t.insertAll vals).rows := by
  obtain ⟨new,rows,_,_⟩ := insertAll_rows t vals
  rw [rows]
  exact List.mem_append_left new member

theorem update_congr {t : Table α} {id : Int} {row : Row α} (found : t.find? id = some row) {change other : α → α}
    (same : change row.val = other row.val) : t.update id change = t.update id other := by
  obtain ⟨member,hit⟩ := find?_eq_some.mp found
  refine ext_rows (List.map_congr_left fun old inside => ?_) rfl
  by_cases here : old.id = id
  · have equal := eq_of_id inside member (here.trans hit.symm)
    subst equal
    rw [if_pos here,if_pos here,same]
  · rw [if_neg here,if_neg here]

theorem update_self {t : Table α} {id : Int} {row : Row α} (found : t.find? id = some row)
    (change : α → α) (same : change row.val = row.val) : t.update id change = t := by
  have idle : t.update id change = t.update id fun val => val := update_congr found same
  rw [idle]
  refine ext_rows ((List.map_congr_left fun old _ => ?_).trans (List.map_id' t.rows)) rfl
  split <;> rfl

theorem update_rows_ne {t : Table α} {id : Int} {row : Row α} (found : t.find? id = some row)
    (change : α → α) (other : change row.val ≠ row.val) : (t.update id change).rows ≠ t.rows := by
  intro same
  obtain ⟨member,hit⟩ := find?_eq_some.mp found
  have moved : (⟨row.id,change row.val⟩ : Row α) ∈ t.rows := by
    rw [← same]
    exact mem_update.mpr ⟨row,member,.inl ⟨hit,rfl⟩⟩
  have equal := eq_of_id moved member rfl
  exact other (congrArg Row.val equal)

/-- The row of an updated id is the one with the new value. -/
theorem exists_update {t : Table α} {row : Row α} (member : row ∈ t.rows) (val : α) (holds : α → Prop) :
    (∃ after ∈ (t.update row.id fun _ => val).rows, after.id = row.id ∧ holds after.val) ↔ holds val := by
  constructor
  · intro kept
    obtain ⟨after,inside,same,held⟩ := kept
    obtain ⟨old,_,⟨_,rfl⟩ | ⟨miss,rfl⟩⟩ := mem_update.mp inside
    · exact held
    · exact absurd same miss
  · intro held
    exact ⟨⟨row.id,val⟩,mem_update.mpr ⟨row,member,.inl ⟨rfl,rfl⟩⟩,rfl,held⟩

def rewrite (t : Table α) (id : Int) (value : Row α → Option α) : Table α :=
  match t.find? id with
  | none => t
  | some row =>
    match value row with
    | none => t
    | some val => t.update row.id fun _ => val

theorem rewrite_cases (t : Table α) (id : Int) (value : Row α → Option α) :
    (t.rewrite id value = t ∧ ∀ row val, t.find? id = some row → value row = some val → val = row.val) ∨
      ∃ row val, t.find? id = some row ∧ value row = some val ∧ val ≠ row.val ∧
        t.rewrite id value = t.update id fun _ => val := by
  unfold rewrite
  cases found : t.find? id with
  | none => exact .inl ⟨rfl,by simp⟩
  | some row =>
    have hit := (find?_eq_some.mp found).2
    cases new : value row with
    | none =>
      refine .inl ⟨by simp only [new],?_⟩
      intro other val same stored
      cases same
      rw [new] at stored
      cases stored
    | some val =>
      simp only [new,hit]
      by_cases same : val = row.val
      · refine .inl ⟨update_self found (fun _ => val) same,?_⟩
        intro other val' here stored
        cases here
        rw [new] at stored
        cases stored
        exact same
      · exact .inr ⟨row,val,rfl,new,same,rfl⟩

theorem rewrite_rows_eq_iff (t : Table α) (id : Int) (value : Row α → Option α) :
    (t.rewrite id value).rows = t.rows ↔
      ∀ row val, t.find? id = some row → value row = some val → val = row.val := by
  rcases rewrite_cases t id value with ⟨same,idle⟩ | ⟨row,val,found,new,other,moved⟩
  · rw [same]
    exact ⟨fun _ => idle,fun _ => rfl⟩
  · rw [moved]
    constructor
    · intro same
      exact absurd same (update_rows_ne found (fun _ => val) other)
    · intro idle
      exact absurd (idle row val found new) other

theorem find?_update {t : Table α} {id : Int} {row : Row α} (found : t.find? id = some row) (change : α → α) :
    (t.update id change).find? id = some ⟨row.id,change row.val⟩ := by
  obtain ⟨member,hit⟩ := find?_eq_some.mp found
  exact find?_eq_some.mpr ⟨mem_update.mpr ⟨row,member,.inl ⟨hit,rfl⟩⟩,hit⟩

/-- A rewriting that has only its own result to offer for its result changes nothing the
second time. What it offers may depend on the whole table. -/
theorem rewrite_again (t : Table α) (id : Int) (value : Table α → Row α → Option α)
    (settled : ∀ row val again, t.find? id = some row → value t row = some val →
      value (t.update id fun _ => val) ⟨row.id,val⟩ = some again → again = val) :
    (t.rewrite id (value t)).rewrite id (value (t.rewrite id (value t))) = t.rewrite id (value t) := by
  rcases rewrite_cases t id (value t) with ⟨same,_⟩ | ⟨row,val,found,new,_,moved⟩
  · rw [same,same]
  · rw [moved]
    rcases rewrite_cases (t.update id fun _ => val) id (value (t.update id fun _ => val)) with
      ⟨same,_⟩ | ⟨other,again,found',new',differs,_⟩
    · exact same
    · rw [find?_update found] at found'
      cases found'
      exact absurd (settled row val again found new new') differs

theorem delete_again (t : Table α) (id : Int) : (t.delete id).delete id = t.delete id :=
  delete_missing (find?_eq_none.mpr fun _ member => (mem_delete.mp member).2)

theorem delete_rows_eq_iff (t : Table α) (id : Int) : (t.delete id).rows = t.rows ↔ t.find? id = none := by
  constructor
  · intro same
    cases found : t.find? id with
    | none => rfl
    | some row => exact absurd same (delete_rows_ne found)
  · intro missing
    rw [delete_missing missing]

end Table
end Relational
