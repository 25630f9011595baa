import Mathlib.Data.List.Basic

/-! String literals between single quotes, as ECMAScript 2019 and its later editions read them
from a script that is not strict: the value, in code units of UTF-16. -/
namespace JavaScript

def codeUnits (point : Nat) : List Nat :=
  if point < 0x10000 then [point] else [0xD800 + (point - 0x10000) / 0x400,0xDC00 + (point - 0x10000) % 0x400]

def utf16 (c : Char) : List Nat := codeUnits c.toNat

def units (text : List Char) : List Nat := text.flatMap utf16

/-- These two end a literal. Earlier editions have U+2028 and U+2029 end one too. -/
def endsLine (c : Char) : Bool := c == '\n' || c == '\r'

def lineTerminator (c : Char) : Bool := endsLine c || c.toNat == 0x2028 || c.toNat == 0x2029

def hexValue (c : Char) : Option Nat :=
  if '0' ≤ c ∧ c ≤ '9' then some (c.toNat - 48)
  else if 'a' ≤ c ∧ c ≤ 'f' then some (c.toNat - 87)
  else if 'A' ≤ c ∧ c ≤ 'F' then some (c.toNat - 55)
  else none

def octalValue (c : Char) : Option Nat := if '0' ≤ c ∧ c ≤ '7' then some (c.toNat - 48) else none

def hexDigits : Nat → Nat → List Char → Option (Nat × List Char)
  | 0,value,text => some (value,text)
  | _+1,_,[] => none
  | n+1,value,c :: rest =>
    match hexValue c with
    | none => none
    | some digit => hexDigits n (16*value+digit) rest

def octalDigits : Nat → Nat → List Char → Nat × List Char
  | n+1,value,c :: rest =>
    match octalValue c with
    | none => (value,c :: rest)
    | some digit => octalDigits n (8*value+digit) rest
  | _,value,text => (value,text)

/-- The digits of `\u{..}` behind the first one, to the closing brace. -/
def codePoint (value : Nat) : List Char → Option (Nat × List Char)
  | [] => none
  | c :: rest =>
    if c = '}' then some (value,rest)
    else
      match hexValue c with
      | none => none
      | some digit => if 16*value+digit ≤ 0x10FFFF then codePoint (16*value+digit) rest else none

def singleEscape : Char → Option Nat
  | 'b' => some 8
  | 't' => some 9
  | 'n' => some 10
  | 'v' => some 11
  | 'f' => some 12
  | 'r' => some 13
  | _ => none

def escapeSequence : List Char → Option (List Nat × List Char)
  | [] => none
  | '\r' :: '\n' :: rest => some ([],rest)
  | 'x' :: rest => (hexDigits 2 0 rest).map fun read => ([read.1],read.2)
  | 'u' :: '{' :: c :: rest =>
    match hexValue c with
    | none => none
    | some digit => (codePoint digit rest).map fun read => (codeUnits read.1,read.2)
  | 'u' :: rest => (hexDigits 4 0 rest).map fun read => ([read.1],read.2)
  | c :: rest =>
    if lineTerminator c then some ([],rest)
    else
      match octalValue c with
      | some digit =>
        let read := octalDigits (if digit ≤ 3 then 2 else 1) digit rest
        some ([read.1],read.2)
      | none => some (((singleEscape c).map fun unit => [unit]).getD (utf16 c),rest)

def continues (c : Char) : Bool := (hexValue c).isSome || c == '\n' || c == '{' || c == '}'

theorem hexDigits_consumes {n value : Nat} {text : List Char} {read : Nat × List Char}
    (found : hexDigits n value text = some read) : ∃ digits, text = digits ++ read.2 ∧ digits.all continues = true := by
  induction n generalizing value text with
  | zero =>
    cases found
    exact ⟨[],rfl,rfl⟩
  | succ n ih =>
    cases text with
    | nil => cases found
    | cons c rest =>
      rw [hexDigits] at found
      cases digit : hexValue c with
      | none =>
        simp only [digit] at found
        cases found
      | some d =>
        simp only [digit] at found
        obtain ⟨digits,same,hex⟩ := ih found
        exact ⟨c :: digits,by rw [same,List.cons_append],by simp [continues,digit,hex]⟩

theorem codePoint_consumes {value : Nat} {text : List Char} {read : Nat × List Char}
    (found : codePoint value text = some read) : ∃ digits, text = digits ++ read.2 ∧ digits.all continues = true := by
  induction text generalizing value with
  | nil => cases found
  | cons c rest ih =>
    rw [codePoint] at found
    split at found
    · rename_i closing
      cases found
      exact ⟨[c],rfl,by simp [closing,continues]⟩
    · cases digit : hexValue c with
      | none =>
        simp only [digit] at found
        cases found
      | some d =>
        simp only [digit] at found
        split at found
        · obtain ⟨digits,same,hex⟩ := ih found
          exact ⟨c :: digits,congrArg (c :: ·) same,by simp [continues,digit,hex]⟩
        · cases found

theorem hexValue_of_octalValue {c : Char} {digit : Nat} (octal : octalValue c = some digit) : hexValue c = some digit := by
  unfold octalValue at octal
  split at octal
  · rename_i range
    cases octal
    have wide : c ≤ '9' := Char.le_trans range.2 (by decide)
    unfold hexValue
    rw [if_pos ⟨range.1,wide⟩]
  · cases octal

theorem octalDigits_consumes (n value : Nat) (text : List Char) :
    ∃ digits, text = digits ++ (octalDigits n value text).2 ∧ digits.all continues = true := by
  induction n generalizing value text with
  | zero => exact ⟨[],by cases text <;> rfl,rfl⟩
  | succ n ih =>
    cases text with
    | nil => exact ⟨[],rfl,rfl⟩
    | cons c rest =>
      rw [octalDigits]
      cases digit : octalValue c with
      | none => exact ⟨[],rfl,rfl⟩
      | some d =>
        obtain ⟨digits,same,octal⟩ := ih (8*value+d) rest
        exact ⟨c :: digits,congrArg (c :: ·) same,by simp [continues,hexValue_of_octalValue digit,octal]⟩

theorem length_utf16_pos (c : Char) : 0 < (utf16 c).length := by
  unfold utf16 codeUnits
  split <;> simp

theorem length_codeUnits_le (point : Nat) : (codeUnits point).length ≤ 2 := by
  unfold codeUnits
  split <;> simp

/-- An escape sequence takes its first character and what continues it, and yields no more
units than it takes. -/
theorem escapeSequence_consumes {text : List Char} {value : List Nat} {rest : List Char}
    (found : escapeSequence text = some (value,rest)) :
    ∃ c taken, text = c :: taken ++ rest ∧ taken.all continues = true ∧ value.length ≤ (utf16 c ++ units taken).length := by
  have one : ∀ (c : Char) (taken : List Char) (unit : Nat), [unit].length ≤ (utf16 c ++ units taken).length := by
    intro c taken unit
    have := length_utf16_pos c
    rw [List.length_append,List.length_singleton]
    omega
  unfold escapeSequence at found
  split at found
  · cases found
  · rename_i later
    cases found
    exact ⟨'\r',['\n'],rfl,rfl,Nat.zero_le _⟩
  · rename_i later
    obtain ⟨read,digits,same⟩ := Option.map_eq_some_iff.mp found
    cases same
    obtain ⟨taken,consumed,hex⟩ := hexDigits_consumes digits
    exact ⟨'x',taken,by rw [consumed]; rfl,hex,one _ _ _⟩
  · rename_i first later
    cases digit : hexValue first with
    | none =>
      simp only [digit] at found
      cases found
    | some d =>
      simp only [digit] at found
      obtain ⟨read,point,same⟩ := Option.map_eq_some_iff.mp found
      cases same
      obtain ⟨taken,consumed,hex⟩ := codePoint_consumes point
      refine ⟨'u','{' :: first :: taken,by rw [consumed]; rfl,by simp [continues,digit,hex],?_⟩
      have two : (utf16 'u' ++ units ('{' :: first :: taken)).length = 2 + (units (first :: taken)).length := by
        rw [List.length_append,units,List.flatMap_cons,List.length_append]
        exact (Nat.add_assoc 1 1 _).symm
      rw [two]
      exact Nat.le_trans (length_codeUnits_le _) (Nat.le_add_right 2 _)
  · rename_i later _
    obtain ⟨read,digits,same⟩ := Option.map_eq_some_iff.mp found
    cases same
    obtain ⟨taken,consumed,hex⟩ := hexDigits_consumes digits
    exact ⟨'u',taken,by rw [consumed]; rfl,hex,one _ _ _⟩
  · rename_i c later _ _ _ _
    split at found
    · cases found
      exact ⟨c,[],rfl,rfl,Nat.zero_le _⟩
    · cases octal : octalValue c with
      | some digit =>
        simp only [octal] at found
        cases found
        obtain ⟨taken,consumed,digits⟩ := octalDigits_consumes (if digit ≤ 3 then 2 else 1) digit later
        exact ⟨c,taken,congrArg (c :: ·) consumed,digits,one _ _ _⟩
      | none =>
        simp only [octal] at found
        cases found
        refine ⟨c,[],rfl,rfl,?_⟩
        cases singleEscape c with
        | none => simp [units]
        | some unit => exact one _ _ _

theorem escapeSequence_shorter {text : List Char} {value : List Nat} {rest : List Char}
    (found : escapeSequence text = some (value,rest)) : rest.length < text.length := by
  obtain ⟨c,taken,rfl,_⟩ := escapeSequence_consumes found
  simp only [List.length_cons,List.length_append]
  omega

def readString : List Char → Option (List Nat × List Char)
  | [] => none
  | c :: rest =>
    if c = '\'' then some ([],rest)
    else if c = '\\' then
      match _found : escapeSequence rest with
      | none => none
      | some (value,later) => (readString later).map fun read => (value ++ read.1,read.2)
    else if endsLine c then none
    else (readString rest).map fun read => (utf16 c ++ read.1,read.2)
termination_by text => text.length
decreasing_by
  · have shorter := escapeSequence_shorter _found
    simp
    omega
  · simp

theorem readString_quote (rest : List Char) : readString ('\'' :: rest) = some ([],rest) := by
  rw [readString,if_pos rfl]

theorem readString_escape (rest : List Char) :
    readString ('\\' :: rest) =
      (escapeSequence rest).bind fun read => (readString read.2).map fun later => (read.1 ++ later.1,later.2) := by
  rw [readString,if_neg (by decide),if_pos rfl]
  split
  · rename_i missing
    rw [missing]
    rfl
  · rename_i value later found
    rw [found]
    rfl

theorem readString_endsLine {c : Char} (ends : endsLine c = true) (rest : List Char) :
    readString (c :: rest) = none := by
  have quote : c ≠ '\'' := by
    rintro rfl
    cases ends
  have escape : c ≠ '\\' := by
    rintro rfl
    cases ends
  rw [readString,if_neg quote,if_neg escape,if_pos ends]

def plain (c : Char) : Bool := c != '\'' && c != '\\' && !endsLine c

theorem readString_plain {c : Char} (itself : plain c = true) (rest : List Char) :
    readString (c :: rest) = (readString rest).map fun read => (utf16 c ++ read.1,read.2) := by
  simp only [plain,Bool.and_eq_true,bne_iff_ne,Bool.not_eq_true'] at itself
  obtain ⟨⟨quote,escape⟩,within⟩ := itself
  rw [readString,if_neg quote,if_neg escape,within,if_neg (by decide)]

theorem readString_append {word : List Char} (itself : ∀ c ∈ word, plain c = true) (rest : List Char) :
    readString (word ++ rest) = (readString rest).map fun read => (units word ++ read.1,read.2) := by
  induction word with
  | nil => simp [units]
  | cons c word ih =>
    rw [List.cons_append,readString_plain (itself c List.mem_cons_self),
      ih fun d inside => itself d (List.mem_cons_of_mem c inside),Option.map_map]
    simp [units,Function.comp_def]

def readLiteral : List Char → Option (List Nat × List Char)
  | '\'' :: rest => readString rest
  | _ => none

/-- A unit of a character from below the surrogates is that character. -/
theorem mem_utf16_of_small {c : Char} {unit : Nat} (small : unit < 0xD800) (inside : unit ∈ utf16 c) :
    utf16 c = [unit] ∧ c.toNat = unit := by
  unfold utf16 codeUnits at inside ⊢
  split at inside
  · rename_i single
    rw [List.mem_singleton] at inside
    subst inside
    exact ⟨if_pos single,rfl⟩
  · simp only [List.mem_cons,List.not_mem_nil,or_false] at inside
    omega

theorem units_eq_cons {text : List Char} {c : Char} {later : List Nat} (small : c.toNat < 0xD800)
    (same : units text = c.toNat :: later) : ∃ rest, text = c :: rest ∧ units rest = later := by
  cases text with
  | nil => cases same
  | cons d rest =>
    have split : utf16 d ++ units rest = c.toNat :: later := same
    cases first : utf16 d with
    | nil => exact absurd (first ▸ length_utf16_pos d) (by decide)
    | cons unit more =>
      rw [first,List.cons_append] at split
      injection split with head tail
      have inside : c.toNat ∈ utf16 d := by
        rw [first,head]
        exact List.mem_cons_self
      obtain ⟨single,code⟩ := mem_utf16_of_small small inside
      rw [first] at single
      injection single with _ none
      subst none
      exact ⟨rest,by rw [Char.toNat_inj.mp code],tail⟩

end JavaScript
