import HyderabadHomes.Home
import Mathlib.Data.List.Forall2

/-! Whether `create_properties` adds all favourites or none. The loop commits each copy by
itself, skips a rejected one in silence and stops at the first exception. -/
namespace HyderabadHomes
open Relational

namespace HomeController

def copyOutcome (user : Int) (answer : Row UserLookingForProperty → Geocoding) (product : Row UserLookingForProperty) :
    Saved UserLookingForProperty :=
  UserLookingForProperty.model.save (answer product) (copyOf user product.val)

def copyStored (user : Int) (answer : Row UserLookingForProperty → Geocoding) (product : Row UserLookingForProperty) :
    Bool := (copyOutcome user answer product).record?.isSome

def CopyOf (user : Int) (product copy : Row UserLookingForProperty) : Prop :=
  copy.val.userId = some user ∧
    UserLookingForProperty.model.keyOf copy.val = UserLookingForProperty.model.keyOf product.val

def selectedIds (property : Option (List (Option String))) : List Int :=
  (((property.getD []).filterMap id).map Ruby.toI).dedup

def AllAdded (user : Int) (ids : List Int) (before after : Table UserLookingForProperty) : Prop :=
  ∃ products new, (products.map Row.id).Perm ids ∧ (∀ product ∈ products, product ∈ before.rows) ∧
    after.rows = before.rows ++ new ∧ List.Forall₂ (CopyOf user) products new

def AllOrNothing (user : Int) (property : Option (List (Option String)))
    (answer : Row UserLookingForProperty → Geocoding) (t : Table UserLookingForProperty) : Prop :=
  (AllAdded user (selectedIds property) t (createProperties (some user) property answer t).1 ∧
      (createProperties (some user) property answer t).2 = favouritesAdded) ∨
    ((createProperties (some user) property answer t).1 = t ∧
      (createProperties (some user) property answer t).2 ≠ favouritesAdded)

/-- Where every selected listing is found: every copy is stored, or an exception comes
while none has been. -/
def SavesTogether (user : Int) (property : Option (List (Option String)))
    (answer : Row UserLookingForProperty → Geocoding) (t : Table UserLookingForProperty) : Prop :=
  ∀ ids products, property = some ids → findMany t ids = .ok products →
    (∀ product ∈ products, copyStored user answer product = true) ∨
      ∃ before product after e, products = before ++ product :: after ∧
        (∀ earlier ∈ before, copyOutcome user answer earlier = .rejected) ∧
        copyOutcome user answer product = .raised e

section Loop
variable (user : Int) (answer : Row UserLookingForProperty → Geocoding)

theorem saveCopies_of_stored {products : List (Row UserLookingForProperty)}
    (all : ∀ product ∈ products, copyStored user answer product = true) (t : Table UserLookingForProperty) :
    ∃ t' new, saveCopies user answer products t = (t',none) ∧ t'.rows = t.rows ++ new ∧
      List.Forall₂ (CopyOf user) products new := by
  induction products generalizing t with
  | nil => exact ⟨t,[],rfl,by simp,.nil⟩
  | cons product rest ih =>
    obtain ⟨stored,record⟩ := Option.isSome_iff_exists.mp (all product (by simp))
    have saved : UserLookingForProperty.model.save (answer product) (copyOf user product.val) = .stored stored :=
      Saved.record?_eq_some.mp record
    obtain ⟨t',new,result,rows,copies⟩ := ih (fun later member => all later (by simp [member])) (t.insert stored)
    obtain ⟨owner,key,_⟩ := copy_stored saved
    refine ⟨t',⟨t.seq+1,stored⟩ :: new,?_,?_,.cons ⟨owner,key⟩ copies⟩
    · simp only [saveCopies,saved]
      exact result
    · rw [rows,Table.insert_rows]
      simp

theorem saveCopies_of_raised {before after : List (Row UserLookingForProperty)} {product : Row UserLookingForProperty}
    {e : Error} (skipped : ∀ earlier ∈ before, copyOutcome user answer earlier = .rejected)
    (raised : copyOutcome user answer product = .raised e) (t : Table UserLookingForProperty) :
    saveCopies user answer (before ++ product :: after) t = (t,some e) := by
  unfold copyOutcome at skipped raised
  induction before with
  | nil => simp only [List.nil_append,saveCopies,raised]
  | cons first rest ih =>
    have rejected := skipped first (by simp)
    simp only [List.cons_append,saveCopies,rejected]
    exact ih fun earlier member => skipped earlier (by simp [member])

theorem saveCopies_cases (products : List (Row UserLookingForProperty)) (t : Table UserLookingForProperty) :
    (∃ t', saveCopies user answer products t = (t',none) ∧
      t'.rows.length = t.rows.length + products.countP (copyStored user answer)) ∨
    ∃ t' before product after e, saveCopies user answer products t = (t',some e) ∧
      products = before ++ product :: after ∧ (∀ earlier ∈ before, ∀ e, copyOutcome user answer earlier ≠ .raised e) ∧
      copyOutcome user answer product = .raised e ∧
      t'.rows.length = t.rows.length + before.countP (copyStored user answer) := by
  induction products generalizing t with
  | nil => exact .inl ⟨t,rfl,by simp⟩
  | cons product rest ih =>
    unfold saveCopies
    cases saved : UserLookingForProperty.model.save (answer product) (copyOf user product.val) with
    | raised e => exact .inr ⟨t,[],product,rest,e,rfl,rfl,by simp,saved,by simp⟩
    | rejected =>
      have outcome : copyOutcome user answer product = .rejected := saved
      have skipped : copyStored user answer product = false := by simp [copyStored,outcome,Saved.record?]
      rcases ih t with ⟨t',result,size⟩ | ⟨t',before,failed,after,e,result,split,quiet,raised,size⟩
      · exact .inl ⟨t',result,by simp [size,skipped]⟩
      · refine .inr ⟨t',product :: before,failed,after,e,result,by simp [split],?_,raised,by simp [size,skipped]⟩
        intro earlier member e'
        rcases List.mem_cons.mp member with here | later
        · simp [here,outcome]
        · exact quiet earlier later e'
    | stored stored =>
      have outcome : copyOutcome user answer product = .stored stored := saved
      have counted : copyStored user answer product = true := by simp [copyStored,outcome,Saved.record?]
      rcases ih (t.insert stored) with ⟨t',result,size⟩ | ⟨t',before,failed,after,e,result,split,quiet,raised,size⟩
      · refine .inl ⟨t',result,?_⟩
        simp [size,counted]
        omega
      · refine .inr ⟨t',product :: before,failed,after,e,result,by simp [split],?_,raised,?_⟩
        · intro earlier member e'
          rcases List.mem_cons.mp member with here | later
          · simp [here,outcome]
          · exact quiet earlier later e'
        · simp [size,counted]
          omega

end Loop

/-- Two spellings of one id count once. -/
theorem selectedIds_length_le (ids : List (Option String)) :
    (selectedIds (some ids)).length ≤ ((ids.filterMap id).dedup).length := by
  have spelled : selectedIds (some ids) ⊆ ((ids.filterMap id).dedup).map Ruby.toI := by
    intro i member
    obtain ⟨s,inside,hit⟩ := List.mem_map.mp (List.mem_dedup.mp member)
    exact List.mem_map.mpr ⟨s,List.mem_dedup.mpr inside,hit⟩
  have shorter := (List.subperm_of_subset (List.nodup_dedup _) spelled).length_le
  rwa [List.length_map] at shorter

theorem findMany_ids {t : Table UserLookingForProperty} {ids : List (Option String)}
    {products : List (Row UserLookingForProperty)} (ok : findMany t ids = .ok products) :
    (products.map Row.id).Perm (selectedIds (some ids)) := by
  rcases findMany_ok ok with ⟨rfl,rfl⟩ | ⟨rows,size⟩
  · exact .nil
  · have distinct : (products.map Row.id).Nodup := by
      rw [rows]
      exact t.distinct.sublist (List.filter_sublist.map Row.id)
    have among : products.map Row.id ⊆ selectedIds (some ids) := by
      intro i member
      obtain ⟨row,inside,rfl⟩ := List.mem_map.mp member
      rw [rows] at inside
      obtain ⟨s,wanted,hit⟩ := List.any_eq_true.mp (List.mem_filter.mp inside).2
      exact List.mem_dedup.mpr (List.mem_map.mpr ⟨s,List.mem_dedup.mp wanted,by simpa using hit⟩)
    -- as many rows were found as spellings asked for, so no selected id is left out
    refine (List.subperm_of_subset distinct among).perm_of_length_le ?_
    rw [List.length_map,size]
    exact selectedIds_length_le ids

section Outcome
variable {user : Int} {answer : Row UserLookingForProperty → Geocoding} {t t' : Table UserLookingForProperty}
  {ids : List (Option String)} {products : List (Row UserLookingForProperty)}

theorem createProperties_of_finished (found : findMany t ids = .ok products)
    (result : saveCopies user answer products t = (t',none)) :
    createProperties (some user) (some ids) answer t = (t',favouritesAdded) := by
  simp only [createProperties,found,result]

theorem createProperties_of_stopped {e : Error} (found : findMany t ids = .ok products)
    (result : saveCopies user answer products t = (t',some e)) :
    createProperties (some user) (some ids) answer t = (t',.error e) := by
  simp only [createProperties,found,result]

theorem allOrNothing_of_error {property : Option (List (Option String))} {e : Error}
    (result : createProperties (some user) property answer t = (t,.error e)) : AllOrNothing user property answer t := by
  unfold AllOrNothing
  rw [result]
  refine .inr ⟨rfl,?_⟩
  intro same
  cases same

theorem stored_of_finished (found : findMany t ids = .ok products)
    (result : saveCopies user answer products t = (t',none))
    (size : t'.rows.length = t.rows.length + products.countP (copyStored user answer))
    (outcome : AllOrNothing user (some ids) answer t) : ∀ product ∈ products, copyStored user answer product = true := by
  unfold AllOrNothing at outcome
  rw [createProperties_of_finished found result] at outcome
  rcases outcome with ⟨⟨chosen,new,selected,_,rows,copies⟩,_⟩ | ⟨_,loud⟩
  · have wanted := (selected.trans (findMany_ids found).symm).length_eq
    have paired := copies.length_eq
    simp only at rows
    rw [rows,List.length_append] at size
    rw [List.length_map,List.length_map] at wanted
    have full : products.countP (copyStored user answer) = products.length := by omega
    exact List.countP_eq_length.mp full
  · exact absurd rfl loud

theorem rejected_of_stopped {before : List (Row UserLookingForProperty)} {e : Error}
    (found : findMany t ids = .ok products) (result : saveCopies user answer products t = (t',some e))
    (quiet : ∀ earlier ∈ before, ∀ e, copyOutcome user answer earlier ≠ .raised e)
    (size : t'.rows.length = t.rows.length + before.countP (copyStored user answer))
    (outcome : AllOrNothing user (some ids) answer t) : ∀ earlier ∈ before, copyOutcome user answer earlier = .rejected := by
  unfold AllOrNothing at outcome
  rw [createProperties_of_stopped found result] at outcome
  rcases outcome with ⟨_,success⟩ | ⟨same,_⟩
  · cases success
  · simp only at same
    rw [same] at size
    have unstored : before.countP (copyStored user answer) = 0 := by omega
    intro earlier member
    cases saved : copyOutcome user answer earlier with
    | rejected => rfl
    | raised e' => exact absurd saved (quiet earlier member e')
    | stored stored =>
      have skipped := List.countP_eq_zero.mp unstored earlier member
      simp [copyStored,saved,Saved.record?] at skipped

end Outcome

/-- Adding favourites is all or nothing exactly when the saves come out together. -/
theorem favourites_all_or_nothing_iff (user : Int) (property : Option (List (Option String)))
    (answer : Row UserLookingForProperty → Geocoding) (t : Table UserLookingForProperty) :
    AllOrNothing user property answer t ↔ SavesTogether user property answer t := by
  constructor
  · intro outcome ids products same found
    cases same
    rcases saveCopies_cases user answer products t with ⟨t',result,size⟩ |
      ⟨t',before,product,after,e,result,split,quiet,raised,size⟩
    · exact .inl (stored_of_finished found result size outcome)
    · exact .inr ⟨before,product,after,e,split,rejected_of_stopped found result quiet size outcome,raised⟩
  · intro together
    cases property with
    | none => exact allOrNothing_of_error rfl
    | some ids =>
      cases found : findMany t ids with
      | error e =>
        have result : createProperties (some user) (some ids) answer t = (t,.error e) := by
          simp only [createProperties,found]
        exact allOrNothing_of_error result
      | ok products =>
        rcases together ids products rfl found with all | ⟨before,product,after,e,split,skipped,raised⟩
        · obtain ⟨t',new,result,rows,copies⟩ := saveCopies_of_stored user answer all t
          unfold AllOrNothing
          rw [createProperties_of_finished found result]
          exact .inl ⟨⟨products,new,findMany_ids found,findMany_mem found,rows,copies⟩,rfl⟩
        · have result : saveCopies user answer products t = (t,some e) := by
            rw [split]
            exact saveCopies_of_raised user answer skipped raised t
          exact allOrNothing_of_error (createProperties_of_stopped found result)

/-- Two favourites, the second rejected by the geocoder: one row and the success notice. -/
theorem one_favourite_of_two :
    ¬ AllOrNothing 1 (some [some "1",some "2"])
      (fun product => if product.id = 1 then .accepted none none else .rejected)
      (Table.empty.insertAll [⟨some 7,some "Ameerpet",some 1,some 1,none,none,none⟩,
        ⟨some 7,some "Begumpet",some 1,some 1,none,none,none⟩]) := by
  intro outcome
  rcases outcome with ⟨⟨products,new,ids,_,rows,copies⟩,_⟩ | ⟨same,_⟩
  · have selected : products.length = 2 := (List.length_map _).symm.trans ids.length_eq
    have added : 3 = (_ ++ new).length := congrArg List.length rows
    have paired := copies.length_eq
    rw [List.length_append] at added
    have held : 3 = 2 + new.length := added
    omega
  · revert same
    decide

end HomeController
end HyderabadHomes
