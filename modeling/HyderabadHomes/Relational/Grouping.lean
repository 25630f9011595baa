import HyderabadHomes.Relational.ForeignKey
import Mathlib.Data.List.Dedup
import Mathlib.Algebra.GroupWithZero.Nat
import Mathlib.Data.Finset.Card

/-! Counting rows over a join and over groups. -/
namespace Relational

variable {α β κ γ : Type}

theorem length_filter_or {p q : β → Bool} (disjoint : ∀ b, p b = true → q b = false) (rows : List β) :
    (rows.filter fun b => p b || q b).length = (rows.filter p).length + (rows.filter q).length := by
  induction rows with
  | nil => rfl
  | cons row rest ih =>
    cases left : p row with
    | true =>
      have right := disjoint row left
      simp only [List.filter_cons,left,right,Bool.true_or,if_true,List.length_cons,ih]
      simp only [Bool.false_eq_true,if_false]
      omega
    | false =>
      cases right : q row <;> simp only [List.filter_cons,left,right,Bool.false_or,Bool.or_self,if_true,
        Bool.false_eq_true,if_false,List.length_cons,ih]
      omega

/-- An inner join on distinct keys has one row for each row that refers to one of them. -/
theorem length_join [DecidableEq κ] {keys : List κ} (distinct : keys.Nodup) (key : β → Option κ) (rows : List β) :
    (keys.flatMap fun k => rows.filter fun row => key row == some k).length =
      (rows.filter fun row => (key row).any fun k => keys.contains k).length := by
  induction keys with
  | nil =>
    have none : rows.filter (fun row => (key row).any fun k => ([] : List κ).contains k) = [] := by
      rw [List.filter_eq_nil_iff]
      intro row _
      cases key row <;> simp
    rw [none]
    rfl
  | cons k keys ih =>
    obtain ⟨new,distinct⟩ := List.nodup_cons.mp distinct
    have split : (fun row => (key row).any fun k' => (k :: keys).contains k') =
        fun row => (key row == some k) || (key row).any fun k' => keys.contains k' := by
      funext row
      cases key row with
      | none => rfl
      | some k' => by_cases same : k' = k <;> simp [same]
    rw [List.flatMap_cons,List.length_append,ih distinct,split,length_filter_or]
    intro row here
    have same : key row = some k := by simpa using here
    simpa [same] using new

/-- One for each value among the rows of a key: `group_by(&value).count`. -/
def groupCount [DecidableEq κ] [DecidableEq γ] (key : β → Option κ) (value : β → γ) (rows : List β) (k : κ) : Nat :=
  ((rows.filter fun row => key row == some k).map value).dedup.length

/-- Over distinct keys the counts add up to the pairs of a key and a value that occur. -/
theorem sum_groupCount [DecidableEq κ] [DecidableEq γ] {keys : List κ} (distinct : keys.Nodup) (key : β → Option κ)
    (value : β → γ) (rows : List β) :
    (keys.map (groupCount key value rows)).sum =
      ((rows.filter fun row => (key row).any fun k => keys.contains k).map fun row => (key row,value row)).dedup.length := by
  induction keys with
  | nil =>
    have none : rows.filter (fun row => (key row).any fun k => ([] : List κ).contains k) = [] := by
      rw [List.filter_eq_nil_iff]
      intro row _
      cases key row <;> simp
    rw [none]
    rfl
  | cons k keys ih =>
    obtain ⟨new,distinct⟩ := List.nodup_cons.mp distinct
    rw [List.map_cons,List.sum_cons,ih distinct,groupCount]
    simp only [← List.card_toFinset]
    have image : ((rows.filter fun row => key row == some k).map value).toFinset.card =
        ((rows.filter fun row => key row == some k).map fun row => (key row,value row)).toFinset.card := by
      rw [show ((rows.filter fun row => key row == some k).map fun row => (key row,value row)).toFinset =
          ((rows.filter fun row => key row == some k).map value).toFinset.image fun v => (some k,v) by
        ext pair
        simp only [List.mem_toFinset,List.mem_map,List.mem_filter,beq_iff_eq,Finset.mem_image]
        constructor
        · intro found
          obtain ⟨row,⟨member,same⟩,rfl⟩ := found
          exact ⟨value row,⟨row,⟨member,same⟩,rfl⟩,by rw [same]⟩
        · intro found
          obtain ⟨_,⟨row,⟨member,same⟩,rfl⟩,rfl⟩ := found
          exact ⟨row,⟨member,same⟩,by rw [same]⟩]
      exact (Finset.card_image_of_injective _ fun v w same => (Prod.mk.inj same).2).symm
    rw [image,← Finset.card_union_of_disjoint]
    · congr 1
      ext pair
      simp only [Finset.mem_union,List.mem_toFinset,List.mem_map,List.mem_filter]
      constructor
      · intro found
        rcases found with ⟨row,⟨member,same⟩,rfl⟩ | ⟨row,⟨member,inside⟩,rfl⟩
        · have same : key row = some k := by simpa using same
          exact ⟨row,⟨member,by simp [same]⟩,rfl⟩
        · refine ⟨row,⟨member,?_⟩,rfl⟩
          cases held : key row with
          | none => simp [held] at inside
          | some k' =>
            have listed : k' ∈ keys := by simpa [held] using inside
            simp [listed]
      · intro found
        obtain ⟨row,⟨member,inside⟩,rfl⟩ := found
        cases held : key row with
        | none => simp [held] at inside
        | some k' =>
          by_cases same : k' = k
          · exact .inl ⟨row,⟨member,by simp [held,same]⟩,by rw [held]⟩
          · have listed : k' ∈ keys := by simpa [held,same] using inside
            exact .inr ⟨row,⟨member,by simp [held,listed]⟩,by rw [held]⟩
    · rw [Finset.disjoint_left]
      intro pair first second
      simp only [List.mem_toFinset,List.mem_map,List.mem_filter,beq_iff_eq] at first second
      obtain ⟨row,⟨_,same⟩,rfl⟩ := first
      obtain ⟨other,⟨_,inside⟩,equal⟩ := second
      have held : key other = some k := (Prod.mk.inj equal).1.trans same
      rw [held] at inside
      exact new (by simpa using inside)

end Relational
