import Mathlib.Data.List.Basic
import Mathlib.Data.List.DropRight

/-! The string operations of Ruby 1.9 and ActiveSupport that the models rest on:
`blank?`, `presence`, `to_i`, and `=~` for a pattern that is one starred character
class between line anchors. -/
namespace HyderabadHomes.Ruby

def space (c : Char) : Bool :=
  let n := c.toNat
  (9 ≤ n && n ≤ 13) || n == 32 || n == 0x85 || n == 0xA0 || n == 0x1680 || (0x2000 ≤ n && n ≤ 0x200A) ||
    n == 0x2028 || n == 0x2029 || n == 0x202F || n == 0x205F || n == 0x3000

def blank (s : String) : Bool := s.toList.all space

def presence (value : Option String) : Option String := value.filter (fun s => !blank s)

def present (value : Option String) : Bool := (presence value).isSome

private def asciiSpace (c : Char) : Bool := c == ' ' || (9 ≤ c.toNat && c.toNat ≤ 13)

def digit (c : Char) : Int := c.toNat - 48

/-- The digits of a numeral; one underscore may stand between two digits. -/
def numeral (acc : Int) : List Char → Int
  | [] => acc
  | c :: rest =>
    if c.isDigit then numeral (acc * 10 + digit c) rest
    else if c == '_' && (rest.head?.any Char.isDigit) then numeral acc rest
    else acc

private def unsigned (cs : List Char) : Int :=
  let body := match cs with
    | '0' :: 'd' :: rest => rest
    | '0' :: 'D' :: rest => rest
    | _ => cs
  if body.head?.any Char.isDigit then numeral 0 body else 0

/-- `String#to_i`: the leading integer of the string, 0 when there is none. -/
def toI (s : String) : Int :=
  match s.toList.dropWhile asciiSpace with
  | '-' :: rest => - unsigned rest
  | '+' :: rest => unsigned rest
  | cs => unsigned cs

theorem numeral_of_digits {cs : List Char} (digits : ∀ c ∈ cs, c.isDigit = true) (acc : Nat) :
    numeral acc cs = (Nat.ofDigitChars 10 cs acc : Nat) := by
  induction cs generalizing acc with
  | nil => rfl
  | cons c rest ih =>
    have here := digits c (by simp)
    have bound : 48 ≤ c.toNat := by
      simp only [Char.isDigit,Bool.and_eq_true,decide_eq_true_eq] at here
      exact here.1
    have value : (acc : Int) * 10 + digit c = ((10 * acc + (c.toNat - 48) : Nat) : Int) := by
      unfold digit
      omega
    rw [numeral,if_pos here,value,ih (fun d member => digits d (by simp [member])),Nat.ofDigitChars_cons]
    rfl

private theorem unsigned_of_digits {cs : List Char} (digits : ∀ c ∈ cs, c.isDigit = true) (filled : cs ≠ []) :
    unsigned cs = numeral 0 cs := by
  cases cs with
  | nil => exact absurd rfl filled
  | cons c rest =>
    have here := digits c (by simp)
    cases rest with
    | nil =>
      unfold unsigned
      simp [here]
    | cons d tail =>
      have next := digits d (by simp)
      have lower : d ≠ 'd' := by
        intro same
        rw [same] at next
        cases next
      have upper : d ≠ 'D' := by
        intro same
        rw [same] at next
        cases next
      unfold unsigned
      simp [here,lower,upper]

private theorem dropWhile_digits {cs : List Char} (digits : ∀ c ∈ cs, c.isDigit = true) :
    cs.dropWhile asciiSpace = cs := by
  cases cs with
  | nil => rfl
  | cons c rest =>
    have here := digits c (by simp)
    simp only [Char.isDigit,Bool.and_eq_true,decide_eq_true_eq] at here
    have visible : asciiSpace c = false := by
      have low : 48 ≤ c.toNat := here.1
      have blank : c ≠ ' ' := by
        intro same
        rw [same] at low
        revert low
        decide
      simp [asciiSpace,blank]
      omega
    simp [visible]

private theorem toDigits_digits (n : Nat) : ∀ c ∈ Nat.toDigits 10 n, c.isDigit = true :=
  fun _ member => Nat.isDigit_of_mem_toDigits (by omega) (by omega) member

private theorem unsigned_toDigits (n : Nat) : unsigned (Nat.toDigits 10 n) = n := by
  rw [unsigned_of_digits (toDigits_digits n) Nat.toDigits_ne_nil]
  have read := numeral_of_digits (toDigits_digits n) 0
  rw [Nat.ofDigitChars_ten_toDigits] at read
  exact read

private theorem toList_ofNat (n : Nat) : (toString (Int.ofNat n)).toList = Nat.toDigits 10 n := Nat.toList_repr

private theorem toList_negSucc (n : Nat) : (toString (Int.negSucc n)).toList = '-' :: Nat.toDigits 10 (n+1) := by
  change ("-" ++ (n+1).repr).toList = _
  rw [String.toList_append,Nat.toList_repr]
  rfl

/-- An id printed into a form is read back as that id. -/
theorem toI_toString (id : Int) : toI (toString id) = id := by
  cases id with
  | ofNat n =>
    unfold toI
    rw [toList_ofNat,dropWhile_digits (toDigits_digits n)]
    split
    · rename_i rest same
      have := toDigits_digits n '-' (by rw [same]; simp)
      cases this
    · rename_i rest same
      have := toDigits_digits n '+' (by rw [same]; simp)
      cases this
    · exact unsigned_toDigits n
  | negSucc n =>
    unfold toI
    rw [toList_negSucc,List.dropWhile_cons_of_neg (by decide)]
    simp only [unsigned_toDigits]
    omega

private theorem space_digit {c : Char} (digit : c.isDigit = true) : space c = false := by
  simp only [Char.isDigit,Bool.and_eq_true,decide_eq_true_eq] at digit
  have low : 48 ≤ c.toNat := digit.1
  have high : c.toNat ≤ 57 := digit.2
  simp [space]
  omega

theorem mem_toString {id : Int} {c : Char} (member : c ∈ (toString id).toList) : c.isDigit = true ∨ c = '-' := by
  cases id with
  | ofNat n =>
    rw [toList_ofNat] at member
    exact .inl (toDigits_digits n c member)
  | negSucc n =>
    rw [toList_negSucc] at member
    rcases List.mem_cons.mp member with sign | digit
    · exact .inr sign
    · exact .inl (toDigits_digits (n+1) c digit)

theorem blank_toString (id : Int) : blank (toString id) = false := by
  cases id with
  | ofNat n =>
    unfold blank
    rw [toList_ofNat]
    obtain ⟨c,rest,same⟩ := List.exists_cons_of_ne_nil (Nat.toDigits_ne_nil : Nat.toDigits 10 n ≠ [])
    have first := space_digit (toDigits_digits n c (by simp [same]))
    simp [same,first]
  | negSucc n =>
    unfold blank
    rw [toList_negSucc]
    simp [show space '-' = false from by decide]

/-- From here the class can be repeated up to the end of a line (`$`). -/
def reachesLineEnd (cls : Char → Bool) : List Char → Bool
  | [] => true
  | c :: rest => c == '\n' || (cls c && reachesLineEnd cls rest)

/-- Search for a line start (`^`) from which `reachesLineEnd` holds; the end of the
string is no line start, even after a newline. -/
def searchLine (cls : Char → Bool) (lineStart : Bool) : List Char → Bool
  | [] => false
  | c :: rest => (lineStart && reachesLineEnd cls (c :: rest)) || searchLine cls (c == '\n') rest

/-- `s =~ /^[cls]*$/`. -/
def matchesLine (cls : Char → Bool) (s : String) : Bool :=
  s.toList.isEmpty || searchLine cls true s.toList

/-- `String#split` on one character: trailing empty parts are dropped. -/
def split (sep : Char) (s : String) : List String :=
  ((s.toList.splitOn sep).rdropWhile List.isEmpty).map String.ofList

/-- The lines of a text, without their ends; nothing begins behind a final newline. -/
def lines : List Char → List (List Char)
  | [] => []
  | c :: rest =>
    if c == '\n' then [] :: lines rest
    else
      match lines rest with
      | [] => [[c]]
      | line :: more => (c :: line) :: more

theorem reachesLineEnd_eq (cls : Char → Bool) (cs : List Char) :
    reachesLineEnd cls cs = ((lines cs).head?.getD []).all cls := by
  induction cs with
  | nil => rfl
  | cons c rest ih =>
    by_cases newline : c = '\n'
    · subst newline
      rfl
    · rw [reachesLineEnd,ih]
      cases parts : lines rest <;> simp [lines,newline,parts]

theorem searchLine_eq (cls : Char → Bool) (lineStart : Bool) (cs : List Char) :
    searchLine cls lineStart cs = (if lineStart then lines cs else (lines cs).tail).any (·.all cls) := by
  induction cs generalizing lineStart with
  | nil => cases lineStart <;> rfl
  | cons c rest ih =>
    rw [searchLine,reachesLineEnd_eq,ih]
    by_cases newline : c = '\n'
    · subst newline
      cases lineStart <;> simp [lines]
    · cases lineStart <;> cases parts : lines rest <;> simp [lines,newline,parts]

/-- The pattern matches a text as soon as one of its lines is in the class. -/
theorem matchesLine_eq (cls : Char → Bool) (s : String) :
    matchesLine cls s = (s.toList.isEmpty || (lines s.toList).any (·.all cls)) := by
  rw [matchesLine,searchLine_eq]
  rfl

theorem forall_lines_iff (cls : Char → Bool) (cs : List Char) :
    (∀ line ∈ lines cs, line.all cls = true) ↔ ∀ c ∈ cs, c ≠ '\n' → cls c = true := by
  induction cs with
  | nil => simp [lines]
  | cons c rest ih =>
    by_cases newline : c = '\n'
    · rw [lines,if_pos (beq_iff_eq.mpr newline),List.forall_mem_cons,ih]
      simp [newline]
    · rw [List.forall_mem_cons,← ih]
      cases parts : lines rest <;> simp [lines,newline,parts,and_assoc]

private theorem not_mem_splitOn {sep : Char} {cs part : List Char} (member : part ∈ cs.splitOn sep) : sep ∉ part := by
  induction cs generalizing part with
  | nil =>
    rw [List.splitOn_nil,List.mem_singleton] at member
    simp [member]
  | cons c rest ih =>
    rw [List.splitOn_cons_eq_if_modifyHead] at member
    split at member
    · rcases List.mem_cons.mp member with here | later
      · simp [here]
      · exact ih later
    · rename_i other
      cases parts : rest.splitOn sep with
      | nil => exact absurd parts (List.splitOn_ne_nil sep rest)
      | cons head tail =>
        rw [parts,List.modifyHead_cons] at member
        rcases List.mem_cons.mp member with here | later
        · have inside : sep ∉ head := ih (by simp [parts])
          simp only [beq_iff_eq] at other
          simp [here,inside,Ne.symm other]
        · exact ih (by simp [parts,later])

/-- No part holds the separator. -/
theorem not_mem_split {sep : Char} {s part : String} (member : part ∈ split sep s) : sep ∉ part.toList := by
  obtain ⟨cs,inside,rfl⟩ := List.mem_map.mp member
  rw [String.toList_ofList]
  exact not_mem_splitOn ((List.rdropWhile_prefix _ _).mem inside)

theorem split_pair {sep : Char} {s : String} {first second : List Char} (before : sep ∉ first) (after : sep ∉ second)
    (filled : second ≠ []) (same : s.toList = first ++ sep :: second) :
    split sep s = [String.ofList first,String.ofList second] := by
  unfold split
  rw [same,List.splitOn_append_cons_self_of_not_mem before,List.splitOn_eq_singleton after,
    show [first,second] = [first] ++ [second] from rfl,List.rdropWhile_concat_neg _ _ _ (by simpa using filled)]
  rfl

def delete (chars : List Char) (s : String) : String := String.ofList (s.toList.filter fun c => !chars.contains c)

/-- Letters outside ASCII stay as they are. -/
def downcase (s : String) : String := String.ofList (s.toList.map Char.toLower)

/-- `String#strip`: a NUL counts as a blank at the end, and not at the start. -/
def strip (s : String) : String :=
  String.ofList ((s.toList.dropWhile asciiSpace).rdropWhile fun c => asciiSpace c || c.toNat == 0)

theorem length_strip_downcase_le (s : String) : (strip (downcase s)).length ≤ s.length := by
  have right := (List.rdropWhile_prefix (fun c => asciiSpace c || c.toNat == 0)
    ((downcase s).toList.dropWhile asciiSpace)).length_le
  have left := (List.dropWhile_sublist asciiSpace (l := (downcase s).toList)).length_le
  have same : (downcase s).toList.length = s.length := by
    rw [downcase,String.toList_ofList,List.length_map,String.length_toList]
  rw [strip,String.length_ofList]
  omega

def truncate (limit : Nat) (s : String) : String := String.ofList (s.toList.take limit)

theorem truncate_of_length_le {limit : Nat} {s : String} (short : s.length ≤ limit) : truncate limit s = s := by
  unfold truncate
  rw [List.take_of_length_le (by rw [String.length_toList]; exact short),String.ofList_toList]

example : toI "-12abc" = -12 := by decide

end HyderabadHomes.Ruby
