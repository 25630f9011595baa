import Mathlib.Data.List.Basic

/-! The controls of an HTML form: what a browser makes of the values a page gives them,
and what it submits when the user leaves them as they are. -/
namespace Html

/-- A one-line text control drops the line breaks of its value. -/
def textField (value : String) : String := String.ofList (value.toList.filter fun c => c != '\n' && c != '\r')

def OneLine (value : String) : Prop := ∀ c ∈ value.toList, c ≠ '\n' ∧ c ≠ '\r'

instance (value : String) : Decidable (OneLine value) :=
  decidable_of_iff (value.toList.all fun c => c != '\n' && c != '\r') (by simp [OneLine])

theorem textField_of_oneLine {value : String} (plain : OneLine value) : textField value = value := by
  unfold textField
  rw [List.filter_eq_self.mpr,String.ofList_toList]
  intro c member
  obtain ⟨feed,carriage⟩ := plain c member
  simp [feed,carriage]

variable {β : Type}

/-- Of a radio group, the last button that is marked checked is on. -/
def radioGroup (buttons : List (β × Bool)) : Option β := (buttons.filter (·.2)).getLast?.map (·.1)

/-- A drop-down shows the last option that is marked selected, or else its first one. -/
def select (options : List (β × Bool)) : Option β := ((options.filter (·.2)).getLast?.or options.head?).map (·.1)

theorem select_of_unmarked {options : List (β × Bool)} (unmarked : ∀ option ∈ options, option.2 = false) :
    select options = options.head?.map (·.1) := by
  have none : options.filter (·.2) = [] := List.filter_eq_nil_iff.mpr fun option member => by simp [unmarked option member]
  unfold select
  rw [none]
  rfl

/-- Where some option is marked and all that are have one value, that value is shown. -/
theorem select_of_marked {options : List (β × Bool)} {value : β} (marked : (value,true) ∈ options)
    (only : ∀ option ∈ options, option.2 = true → option.1 = value) : select options = some value := by
  have inside : (value,true) ∈ options.filter (·.2) := List.mem_filter.mpr ⟨marked,rfl⟩
  have nonempty := List.ne_nil_of_mem inside
  obtain ⟨member,on⟩ := List.mem_filter.mp (List.getLast_mem nonempty)
  unfold select
  rw [List.getLast?_eq_some_getLast nonempty]
  exact congrArg some (only _ member on)

end Html
