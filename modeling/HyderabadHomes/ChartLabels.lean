import HyderabadHomes.JavaScript.Literal
import HyderabadHomes.Html.Text
import HyderabadHomes.Views

/-! The labels of the dashboard's charts. The template writes each name between single
quotes into a script, escaped as for the text of a page: the quote is no character that is
escaped, and in a script a reference is not read back. -/
namespace HyderabadHomes
open JavaScript

/-- `'<%= type.name %>'` in the rows of `arrayToDataTable`. -/
def chartLabel (name : Option String) : List Char := '\'' :: Html.escape (name.getD "").toList ++ ['\'']

def labelChar (c : Char) : Bool := (Html.reference c).isNone && plain c

def labelText (name rest : List Char) : List Char := Html.escape name ++ '\'' :: rest

theorem labelText_cons_of_reference {c : Char} {text : List Char} (found : Html.reference c = some text)
    (name rest : List Char) : labelText (c :: name) rest = text ++ labelText name rest := by
  simp [labelText,Html.escape,found]

theorem labelText_cons_of_none {c : Char} (missing : Html.reference c = none) (name rest : List Char) :
    labelText (c :: name) rest = c :: labelText name rest := by
  simp [labelText,Html.escape,missing]

theorem reference_head {c : Char} {text : List Char} (found : Html.reference c = some text) :
    ∃ more, text = '&' :: more := by
  unfold Html.reference at found
  split at found <;> first | exact ⟨_,(Option.some.inj found).symm⟩ | cases found

theorem readString_reference {c : Char} {text : List Char} (found : Html.reference c = some text) (rest : List Char) :
    readString (text ++ rest) = (readString rest).map fun read => (units text ++ read.1,read.2) := by
  apply readString_append
  unfold Html.reference at found
  split at found <;> first | (cases found; exact List.all_eq_true.mp (by decide)) | cases found

theorem labelText_cut {word later name rest : List Char} (all : word.all continues = true)
    (same : labelText name rest = word ++ later) : ∃ behind, name = word ++ behind ∧ later = labelText behind rest := by
  induction word generalizing name with
  | nil => exact ⟨name,rfl,same.symm⟩
  | cons c word ih =>
    rw [List.all_cons,Bool.and_eq_true] at all
    cases name with
    | nil =>
      injection same with head _
      subst head
      exact absurd all.1 (by decide)
    | cons d name =>
      cases written : Html.reference d with
      | some text =>
        obtain ⟨more,rfl⟩ := reference_head written
        rw [labelText_cons_of_reference written] at same
        injection same with head _
        subst head
        exact absurd all.1 (by decide)
      | none =>
        rw [labelText_cons_of_none written] at same
        injection same with head tail
        subst head
        obtain ⟨behind,rfl,rest⟩ := ih all.2 tail
        exact ⟨behind,rfl,rest⟩

/-- No unit of an ampersand and none of a quote. -/
def Unmarked (q : List Nat) : Prop := 38 ∉ q ∧ 39 ∉ q

theorem Unmarked.append {p q : List Nat} (left : Unmarked p) (right : Unmarked q) : Unmarked (p ++ q) := by
  simp only [Unmarked,List.mem_append,not_or]
  exact ⟨⟨left.1,right.1⟩,left.2,right.2⟩

theorem Unmarked.drop {q : List Nat} (clean : Unmarked q) (n : Nat) : Unmarked (q.drop n) :=
  ⟨fun inside => clean.1 (List.mem_of_mem_drop inside),fun inside => clean.2 (List.mem_of_mem_drop inside)⟩

theorem unmarked_utf16 {c : Char} (amp : c ≠ '&') (quote : c ≠ '\'') : Unmarked (utf16 c) := by
  constructor
  · intro inside
    exact amp (Char.toNat_inj.mp (mem_utf16_of_small (by decide) inside).2)
  · intro inside
    exact quote (Char.toNat_inj.mp (mem_utf16_of_small (by decide) inside).2)

theorem unmarked_of_continues {word : List Char} (all : word.all continues = true) : Unmarked (units word) := by
  induction word with
  | nil => exact ⟨List.not_mem_nil,List.not_mem_nil⟩
  | cons c word ih =>
    rw [List.all_cons,Bool.and_eq_true] at all
    have amp : c ≠ '&' := by
      rintro rfl
      exact absurd all.1 (by decide)
    have quote : c ≠ '\'' := by
      rintro rfl
      exact absurd all.1 (by decide)
    exact (unmarked_utf16 amp quote).append (ih all.2)

/-- What is left of an expected value once a shorter one has been read. -/
theorem left_over {value later p s : List Nat} (same : value ++ later = p ++ s) (shorter : value.length < p.length) :
    later = p.drop value.length ++ s ∧ p.drop value.length ≠ [] := by
  constructor
  · have dropped := congrArg (List.drop value.length) same
    rwa [List.drop_left,List.drop_append_of_le_length (Nat.le_of_lt shorter)] at dropped
  · rw [ne_eq,List.drop_eq_nil_iff]
    omega

/-- An expected value whose next unit is neither an ampersand's nor a quote's. -/
theorem marked_ne {q later more : List Nat} {unit : Nat} (clean : Unmarked q) (marked : unit = 38 ∨ unit = 39) :
    unit :: later ≠ q ++ 92 :: more := by
  intro same
  cases q with
  | nil =>
    injection same with first _
    omega
  | cons first q =>
    injection same with equal _
    subst equal
    rcases marked with rfl | rfl
    · exact clean.1 List.mem_cons_self
    · exact clean.2 List.mem_cons_self

/-- From a backslash on the reading lags behind the name: an escape sequence has at least one
character more than the units that it yields. -/
theorem backslash_lags {name rest : List Char} {q : List Nat} {r : List Char} (clean : Unmarked q)
    (found : readString ('\\' :: labelText name rest) = some (q ++ 92 :: units name,r)) :
    ∃ behind lag, behind.length ≤ name.length ∧ lag ≠ [] ∧ Unmarked lag ∧
      readString (labelText behind rest) = some (lag ++ units behind,r) := by
  rw [readString_escape] at found
  obtain ⟨⟨value,later⟩,escaped,found⟩ := Option.bind_eq_some_iff.mp found
  obtain ⟨⟨value',r'⟩,reading,same⟩ := Option.map_eq_some_iff.mp found
  simp only [Prod.mk.injEq] at same
  obtain ⟨same,rfl⟩ := same
  cases name with
  | nil =>
    -- the closing quote is escaped
    have quote : escapeSequence (labelText [] rest) = some ([39],rest) := rfl
    rw [quote] at escaped
    injection escaped with pair
    injection pair with first _
    subst first
    exact absurd same (marked_ne clean (Or.inr rfl))
  | cons d name =>
    cases written : Html.reference d with
    | some text =>
      obtain ⟨more,rfl⟩ := reference_head written
      rw [labelText_cons_of_reference written] at escaped
      have amp : escapeSequence ('&' :: (more ++ labelText name rest)) = some ([38],more ++ labelText name rest) := rfl
      rw [List.cons_append,amp] at escaped
      injection escaped with pair
      injection pair with first _
      subst first
      exact absurd same (marked_ne clean (Or.inl rfl))
    | none =>
      rw [labelText_cons_of_none written] at escaped
      have amp : d ≠ '&' := by
        rintro rfl
        cases written
      have quote : d ≠ '\'' := by
        rintro rfl
        have quote : escapeSequence ('\'' :: labelText name rest) = some ([39],labelText name rest) := rfl
        rw [quote] at escaped
        injection escaped with pair
        injection pair with first _
        subst first
        exact marked_ne clean (Or.inr rfl) same
      obtain ⟨c,taken,consumed,all,shorter⟩ := escapeSequence_consumes escaped
      injection consumed with head consumed
      subst head
      obtain ⟨behind,rfl,rfl⟩ := labelText_cut all consumed
      have regrouped : value ++ value' = (q ++ 92 :: (utf16 d ++ units taken)) ++ units behind := by
        rw [same]
        simp [units]
      have lags : value.length < (q ++ 92 :: (utf16 d ++ units taken)).length := by
        rw [List.length_append,List.length_cons]
        omega
      obtain ⟨left,more⟩ := left_over regrouped lags
      refine ⟨behind,_,?_,more,?_,by rw [reading,left]⟩
      · simp only [List.length_cons,List.length_append]
        omega
      · have back : Unmarked [92] := ⟨by decide,by decide⟩
        exact (clean.append (back.append ((unmarked_utf16 amp quote).append (unmarked_of_continues all)))).drop _

theorem never_catches_up {name rest : List Char} {lag : List Nat} {r : List Char} (behind : lag ≠ []) (clean : Unmarked lag) :
    readString (labelText name rest) ≠ some (lag ++ units name,r) := by
  induction size : name.length using Nat.strong_induction_on generalizing name lag with
  | _ n ih =>
    intro found
    cases name with
    | nil =>
      rw [labelText,Html.escape,List.nil_append,readString_quote] at found
      injection found with pair
      injection pair with nothing _
      exact behind (List.append_eq_nil_iff.mp nothing.symm).1
    | cons c name =>
      rw [List.length_cons] at size
      cases written : Html.reference c with
      | some text =>
        obtain ⟨more,rfl⟩ := reference_head written
        rw [labelText_cons_of_reference written,readString_reference written] at found
        obtain ⟨read,_,same⟩ := Option.map_eq_some_iff.mp found
        simp only [Prod.mk.injEq] at same
        cases lag with
        | nil => exact behind rfl
        | cons unit lag =>
          injection same.1 with first _
          subst first
          exact clean.1 List.mem_cons_self
      | none =>
        rw [labelText_cons_of_none written] at found
        by_cases quote : c = '\''
        · subst quote
          rw [readString_quote] at found
          injection found with pair
          injection pair with nothing _
          exact behind (List.append_eq_nil_iff.mp nothing.symm).1
        by_cases escape : c = '\\'
        · subst escape
          obtain ⟨later,lag',shorter,behind',clean',found'⟩ := backslash_lags clean found
          exact ih later.length (by omega) behind' clean' rfl found'
        by_cases ends : endsLine c = true
        · rw [readString_endsLine ends] at found
          cases found
        have itself : plain c = true := by simp [plain,quote,escape,ends]
        rw [readString_plain itself] at found
        obtain ⟨⟨value,r'⟩,reading,same⟩ := Option.map_eq_some_iff.mp found
        simp only [Prod.mk.injEq] at same
        obtain ⟨same,rfl⟩ := same
        have amp : c ≠ '&' := by
          rintro rfl
          cases written
        have regrouped : utf16 c ++ value = (lag ++ utf16 c) ++ units name := by
          rw [same]
          simp [units]
        have longer : (utf16 c).length < (lag ++ utf16 c).length := by
          have := List.length_pos_of_ne_nil behind
          rw [List.length_append]
          omega
        obtain ⟨left,more⟩ := left_over regrouped longer
        exact ih name.length (by omega) more ((clean.append (unmarked_utf16 amp quote)).drop _) rfl (by rw [reading,left])

/-- Behind an ampersand the reading is four units ahead, and stays so. -/
theorem amp_never_caught {name rest : List Char} {value : List Nat} {r : List Char}
    (found : readString (labelText name rest) = some (value,r)) : units name ≠ [97,109,112,59] ++ value := by
  induction size : name.length using Nat.strong_induction_on generalizing name value with
  | _ n ih =>
    intro same
    obtain ⟨name₁,rfl,behind₁⟩ := @units_eq_cons name 'a' _ (by decide) same
    obtain ⟨name₂,rfl,behind₂⟩ := @units_eq_cons name₁ 'm' _ (by decide) behind₁
    obtain ⟨name₃,rfl,behind₃⟩ := @units_eq_cons name₂ 'p' _ (by decide) behind₂
    obtain ⟨name₄,rfl,behind₄⟩ := @units_eq_cons name₃ ';' _ (by decide) behind₃
    have word : labelText ('a' :: 'm' :: 'p' :: ';' :: name₄) rest = ['a','m','p',';'] ++ labelText name₄ rest := rfl
    rw [word,readString_append (List.all_eq_true.mp (by decide))] at found
    obtain ⟨⟨value',r'⟩,reading,pair⟩ := Option.map_eq_some_iff.mp found
    simp only [Prod.mk.injEq] at pair
    obtain ⟨rfl,rfl⟩ := pair
    exact ih name₄.length (by simp only [List.length_cons] at size; omega) reading rfl behind₄

theorem labelChars_of_read {name rest r : List Char} (found : readString (labelText name rest) = some (units name,r)) :
    name.all labelChar = true := by
  induction name with
  | nil => rfl
  | cons c name ih =>
    cases written : Html.reference c with
    | some text =>
      rw [labelText_cons_of_reference written,readString_reference written] at found
      obtain ⟨⟨value,r'⟩,reading,same⟩ := Option.map_eq_some_iff.mp found
      simp only [Prod.mk.injEq] at same
      obtain ⟨more,rfl⟩ := reference_head written
      obtain ⟨name',same',tail⟩ := @units_eq_cons (c :: name) '&' _ (by decide) same.1.symm
      -- of the four only the ampersand's reference starts with the character itself
      injection same' with amp equal
      subst amp equal
      cases written
      exact absurd tail (amp_never_caught reading)
    | none =>
      rw [labelText_cons_of_none written] at found
      by_cases quote : c = '\''
      · subst quote
        rw [readString_quote] at found
        cases found
      by_cases escape : c = '\\'
      · subst escape
        obtain ⟨behind,lag,_,ahead,clean,found⟩ :=
          @backslash_lags name rest [] r ⟨List.not_mem_nil,List.not_mem_nil⟩ found
        exact absurd found (never_catches_up ahead clean)
      by_cases ends : endsLine c = true
      · rw [readString_endsLine ends] at found
        cases found
      have itself : plain c = true := by simp [plain,quote,escape,ends]
      rw [readString_plain itself] at found
      obtain ⟨⟨value,r'⟩,reading,same⟩ := Option.map_eq_some_iff.mp found
      simp only [Prod.mk.injEq] at same
      obtain ⟨same,rfl⟩ := same
      have value : value = units name := List.append_cancel_left same
      subst value
      simp [labelChar,written,itself,ih reading]

theorem read_of_labelChars {name : List Char} (all : name.all labelChar = true) (rest : List Char) :
    readString (labelText name rest) = some (units name,rest) := by
  induction name with
  | nil => exact readString_quote rest
  | cons c name ih =>
    simp only [List.all_cons,labelChar,Bool.and_eq_true,Option.isNone_iff_eq_none] at all
    rw [labelText_cons_of_none all.1.1,readString_plain all.1.2,ih all.2]
    rfl

end HyderabadHomes
