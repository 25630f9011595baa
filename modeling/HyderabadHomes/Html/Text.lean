import Mathlib.Data.List.Basic

/-! Text in an HTML page: the four characters that are written as references, the text that
a browser reads in their place, and the tags of what is not escaped. -/
namespace Html

def reference : Char → Option (List Char)
  | '&' => some ['&','a','m','p',';']
  | '>' => some ['&','g','t',';']
  | '<' => some ['&','l','t',';']
  | '"' => some ['&','q','u','o','t',';']
  | _ => none

def escape : List Char → List Char
  | [] => []
  | c :: rest => (reference c).getD [c] ++ escape rest

def unescape : List Char → List Char
  | '&' :: 'a' :: 'm' :: 'p' :: ';' :: rest => '&' :: unescape rest
  | '&' :: 'g' :: 't' :: ';' :: rest => '>' :: unescape rest
  | '&' :: 'l' :: 't' :: ';' :: rest => '<' :: unescape rest
  | '&' :: 'q' :: 'u' :: 'o' :: 't' :: ';' :: rest => '"' :: unescape rest
  | c :: rest => c :: unescape rest
  | [] => []

/-- What is escaped in a page is what the browser reads. -/
theorem unescape_escape (text : List Char) : unescape (escape text) = text := by
  induction text with
  | nil => rfl
  | cons c rest ih =>
    by_cases amp : c = '&'
    · subst amp
      exact congrArg ('&' :: ·) ih
    by_cases gt : c = '>'
    · subst gt
      exact congrArg ('>' :: ·) ih
    by_cases lt : c = '<'
    · subst lt
      exact congrArg ('<' :: ·) ih
    by_cases quote : c = '"'
    · subst quote
      exact congrArg ('"' :: ·) ih
    have plain : reference c = none := by
      unfold reference
      split <;> first | rfl | contradiction
    simp only [escape,plain,Option.getD_none,List.singleton_append]
    rw [unescape,ih]
    all_goals
      intros
      exact amp ‹_›

/-- Behind a `<`, what makes it the start of a tag. -/
def opensTag : List Char → Bool
  | '/' :: c :: _ => c.isAlpha
  | c :: _ => c.isAlpha || c == '!' || c == '?'
  | [] => false

/-- The tags of a text; inside of one, the characters since its start, backwards. -/
def tagsFrom : Option (List Char) → List Char → List (List Char)
  | _,[] => []
  | none,c :: rest => if c == '<' && opensTag rest then tagsFrom (some []) rest else tagsFrom none rest
  | some tag,c :: rest => if c == '>' then tag.reverse :: tagsFrom none rest else tagsFrom (some (c :: tag)) rest

def tags (text : List Char) : List (List Char) := tagsFrom none text

theorem tags_append_of_plain {text : List Char} (plain : '<' ∉ text) (rest : List Char) :
    tags (text ++ rest) = tags rest := by
  unfold tags
  induction text with
  | nil => rfl
  | cons c text ih =>
    rw [List.mem_cons,not_or] at plain
    rw [List.cons_append,tagsFrom,if_neg (by simp [Ne.symm plain.1])]
    exact ih plain.2

end Html
