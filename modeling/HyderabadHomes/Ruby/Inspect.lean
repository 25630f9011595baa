import HyderabadHomes.Ruby

/-! `inspect` of strings and of arrays of strings in Ruby 1.9. Which characters outside
ASCII are printable is a table of the interpreter, and a parameter here. -/
namespace HyderabadHomes.Ruby

def hexDigit (n : Nat) : Char := "0123456789ABCDEF".toList.getD n '0'

def hexDigits (n : Nat) : Nat → List Char
  | 0 => []
  | width+1 => hexDigits (n/16) width ++ [hexDigit (n%16)]

def unicodeEscape (c : Char) : List Char :=
  if c.toNat ≤ 0xFFFF then '\\' :: 'u' :: hexDigits c.toNat 4
  else '\\' :: 'u' :: '{' :: ((hexDigits c.toNat 6).dropWhile (· == '0') ++ ['}'])

def escapeLetter (c : Char) : Option Char :=
  match c.toNat with
  | 10 => some 'n'
  | 13 => some 'r'
  | 9 => some 't'
  | 12 => some 'f'
  | 11 => some 'v'
  | 8 => some 'b'
  | 7 => some 'a'
  | 27 => some 'e'
  | _ => none

def printed (printable : Char → Bool) (c : Char) : Bool :=
  if c.toNat < 128 then 32 ≤ c.toNat && c.toNat < 127 else printable c

/-- One character of a string, before the rest of it: a `#` is escaped where it would
start an interpolation. -/
def inspectChar (printable : Char → Bool) (c : Char) (rest : List Char) : List Char :=
  if c == '"' || c == '\\' || (c == '#' && rest.head?.any (['$','@','{'].contains ·)) then ['\\',c]
  else
    match escapeLetter c with
    | some letter => ['\\',letter]
    | none => if printed printable c then [c] else unicodeEscape c

def inspectBody (printable : Char → Bool) : List Char → List Char
  | [] => []
  | c :: rest => inspectChar printable c rest ++ inspectBody printable rest

def inspect (printable : Char → Bool) (s : String) : List Char := '"' :: (inspectBody printable s.toList ++ ['"'])

def inspectPair (printable : Char → Bool) (first second : String) : List Char :=
  '[' :: (inspect printable first ++ [',',' '] ++ inspect printable second ++ [']'])

example : inspectPair (fun _ => true) "a#b" "\n\"#\x7b" = "[\"a#b\", \"\\n\\\"\\#\x7b\"]".toList := by decide

/-- A character is either left as it is or written after a backslash. -/
theorem inspectChar_cases (printable : Char → Bool) (c : Char) (rest : List Char) :
    inspectChar printable c rest = [c] ∨ ∃ tail, inspectChar printable c rest = '\\' :: tail := by
  unfold inspectChar unicodeEscape
  split
  · exact .inr ⟨_,rfl⟩
  · cases escapeLetter c with
    | some letter => exact .inr ⟨_,rfl⟩
    | none =>
      simp only
      split
      · exact .inl rfl
      · split <;> exact .inr ⟨_,rfl⟩

theorem hexDigits_plain {n width : Nat} : ∀ c ∈ hexDigits n width, c ≠ ',' := by
  induction width generalizing n with
  | zero => simp [hexDigits]
  | succ width ih =>
    intro c member
    rcases List.mem_append.mp member with earlier | last
    · exact ih c earlier
    · have digits : ∀ d < 16, hexDigit d ≠ ',' := by decide
      rw [List.mem_singleton.mp last]
      exact digits _ (Nat.mod_lt n (by decide))

theorem escapeLetter_plain {c letter : Char} (escaped : escapeLetter c = some letter) : letter ≠ ',' := by
  unfold escapeLetter at escaped
  split at escaped <;> cases escaped <;> decide

theorem unicodeEscape_plain (c : Char) : ',' ∉ unicodeEscape c := by
  unfold unicodeEscape
  split
  · intro member
    simp only [List.mem_cons,Char.reduceEq,false_or] at member
    exact hexDigits_plain _ member rfl
  · intro member
    simp only [List.mem_cons,List.mem_append,Char.reduceEq,false_or,List.not_mem_nil,or_false] at member
    exact hexDigits_plain _ ((List.dropWhile_sublist _).mem member) rfl

/-- Only a comma is written with a comma. -/
theorem inspectChar_plain (printable : Char → Bool) {c : Char} (other : c ≠ ',') (rest : List Char) :
    ',' ∉ inspectChar printable c rest := by
  unfold inspectChar
  split
  · simp [Ne.symm other]
  · cases letter : escapeLetter c with
    | some letter' =>
      have plain := escapeLetter_plain letter
      simp [Ne.symm plain]
    | none =>
      simp only
      split
      · simp [Ne.symm other]
      · exact unicodeEscape_plain c

theorem inspect_plain (printable : Char → Bool) {s : String} (plain : ',' ∉ s.toList) :
    ',' ∉ inspect printable s := by
  have body : ∀ cs : List Char, ',' ∉ cs → ',' ∉ inspectBody printable cs := by
    intro cs
    induction cs with
    | nil => exact fun _ absent => nomatch absent
    | cons c rest ih =>
      intro plain member
      rw [List.mem_cons,not_or] at plain
      rcases List.mem_append.mp member with here | later
      · exact inspectChar_plain printable (Ne.symm plain.1) rest here
      · exact ih plain.2 later
  intro member
  simp only [inspect,List.mem_cons,List.mem_append,Char.reduceEq,false_or,List.not_mem_nil,or_false] at member
  exact body s.toList plain member

/-- Of a string without the characters that `keep` drops, `inspect` keeps no less than the string. -/
theorem length_le_filter_inspectBody (printable : Char → Bool) {keep : Char → Bool} (slash : keep '\\' = true)
    {cs : List Char} (kept : ∀ c ∈ cs, keep c = true) :
    cs.length ≤ ((inspectBody printable cs).filter keep).length := by
  induction cs with
  | nil => simp
  | cons c rest ih =>
    have later := ih fun d member => kept d (by simp [member])
    have here : 1 ≤ ((inspectChar printable c rest).filter keep).length := by
      rcases inspectChar_cases printable c rest with same | ⟨tail,same⟩
      · simp [same,kept c (by simp)]
      · simp [same,slash]
    simp only [inspectBody,List.filter_append,List.length_append,List.length_cons]
    omega

end HyderabadHomes.Ruby
