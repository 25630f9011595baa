import HyderabadHomes.Profile
import HyderabadHomes.Html.Text

/-! The whitelist for first names and the map popup, which shows the name unescaped. The
pattern is anchored to lines: one good line is enough for it. -/
namespace HyderabadHomes.Profile

def heading (text : Option String) : List Char := "<h4>".toList ++ ((text.getD "").toList ++ "</h4>".toList)

def gmaps4railsInfowindow (r : Profile) : List Char := heading r.firstName ++ heading r.workLocation

def allowed (c : Char) : Bool := c.isAlpha || c == '.' || c == ' ' || (9 ≤ c.toNat && c.toNat ≤ 13)

/-- The characters outside ASCII that match a letter where case is ignored. -/
def folded (c : Char) : Bool := c.toNat == 0x17F || c.toNat == 0x212A

theorem firstNameClass_eq (c : Char) : firstNameClass c = (allowed c || folded c) := by
  simp [firstNameClass,allowed,folded,Bool.or_assoc]

/-- A name that is accepted holds nothing but allowed characters, and its heading brings no
markup into the popup but its own. -/
def Protected (r : Profile) : Prop :=
  validFirstName r.firstName = true →
    (∀ c ∈ (r.firstName.getD "").toList, allowed c = true) ∧
      Html.tags (gmaps4railsInfowindow r) = "h4".toList :: "/h4".toList :: Html.tags (heading r.workLocation)

/-- Of a name within the length limits, either no line passes the pattern, or all of them do
and no character is a folded one. -/
def LinesAgree (name : Option String) : Prop :=
  (name.any (fun s => 1 ≤ s.length && s.length ≤ 20) && Ruby.present name) = true →
    (∃ line ∈ Ruby.lines (name.getD "").toList, line.all firstNameClass = true) →
      (∀ line ∈ Ruby.lines (name.getD "").toList, line.all firstNameClass = true) ∧
        ∀ c ∈ (name.getD "").toList, folded c = false

theorem tags_heading {text : Option String} (plain : '<' ∉ (text.getD "").toList) (rest : List Char) :
    Html.tags (heading text ++ rest) = "h4".toList :: "/h4".toList :: Html.tags rest := by
  have inner := Html.tags_append_of_plain plain ("</h4>".toList ++ rest)
  rw [← List.append_assoc] at inner
  change "h4".toList :: Html.tags ((text.getD "").toList ++ "</h4>".toList ++ rest) = _
  rw [inner]
  rfl

theorem folded_of_allowed {c : Char} (plain : allowed c = true) : folded c = false := by
  rw [Bool.eq_false_iff]
  intro other
  have code : c.toNat = 0x17F ∨ c.toNat = 0x212A := by simpa [folded] using other
  rcases code with long | kelvin
  · rw [show c = Char.ofNat 0x17F by rw [← long,Char.ofNat_toNat]] at plain
    revert plain
    decide
  · rw [show c = Char.ofNat 0x212A by rw [← kelvin,Char.ofNat_toNat]] at plain
    revert plain
    decide

theorem allowed_iff_lines (cs : List Char) :
    (∀ c ∈ cs, allowed c = true) ↔
      (∀ line ∈ Ruby.lines cs, line.all firstNameClass = true) ∧ ∀ c ∈ cs, folded c = false := by
  rw [Ruby.forall_lines_iff]
  constructor
  · intro plain
    refine ⟨fun c member _ => ?_,fun c member => folded_of_allowed (plain c member)⟩
    rw [firstNameClass_eq,plain c member,Bool.true_or]
  · intro agree c member
    by_cases newline : c = '\n'
    · subst newline
      decide
    · have either := agree.1 c member newline
      rwa [firstNameClass_eq,agree.2 c member,Bool.or_false] at either

theorem validFirstName_iff (name : Option String) : validFirstName name = true ↔
    (name.any (fun s => 1 ≤ s.length && s.length ≤ 20) && Ruby.present name) = true ∧
      ∃ line ∈ Ruby.lines (name.getD "").toList, line.all firstNameClass = true := by
  rw [validFirstName,Ruby.matchesLine_eq,Bool.and_assoc,Bool.and_eq_true,Bool.or_eq_true,List.any_eq_true,and_comm]
  refine and_congr_right fun limits => or_iff_right fun empty => ?_
  -- the empty name has no line, but no presence either
  cases name with
  | none => cases limits
  | some s =>
    have same : s = "" := by simpa using empty
    subst same
    revert limits
    decide

/-- The whitelist protects the popup exactly where the lines of the name agree. -/
theorem first_name_protected_iff (r : Profile) : Protected r ↔ LinesAgree r.firstName := by
  unfold Protected LinesAgree
  rw [validFirstName_iff,and_imp]
  refine imp_congr_right fun limits => imp_congr_right fun matched => ?_
  rw [← allowed_iff_lines]
  refine and_iff_left_of_imp fun plain => tags_heading (fun bracket => ?_) (heading r.workLocation)
  have allowed := plain '<' bracket
  revert allowed
  decide

/-- The first line of this name is a letter, the second an image. -/
theorem second_line_is_not_protected :
    ¬ Protected {fresh with firstName := some "A\n<img src=x>"} := by
  intro safe
  have plain := (safe (by decide)).1 '<' (by decide)
  revert plain
  decide

end HyderabadHomes.Profile
