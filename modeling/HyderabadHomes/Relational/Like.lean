import Mathlib.Data.List.Infix

/-! SQL LIKE: `%` stands for any sequence, `_` for any one character, and a backslash
makes the next character literal. -/
namespace Relational

def anySuffix (p : List Char → Bool) : List Char → Bool
  | [] => p []
  | c :: rest => p (c :: rest) || anySuffix p rest

def like : List Char → List Char → Bool
  | [],s => s.isEmpty
  | '%' :: pattern,s => anySuffix (like pattern) s
  | '_' :: pattern,s =>
    match s with
    | [] => false
    | _ :: rest => like pattern rest
  | '\\' :: c :: pattern,s =>
    match s with
    | [] => false
    | d :: rest => d == c && like pattern rest
  | c :: pattern,s =>
    match s with
    | [] => false
    | d :: rest => d == c && like pattern rest

theorem anySuffix_iff (p : List Char → Bool) (s : List Char) : anySuffix p s = true ↔ ∃ t, t <:+ s ∧ p t = true := by
  induction s with
  | nil => simp [anySuffix]
  | cons c rest ih =>
    rw [anySuffix,Bool.or_eq_true,ih]
    constructor
    · intro found
      rcases found with here | ⟨t,suffix,hit⟩
      · exact ⟨c :: rest,List.suffix_rfl,here⟩
      · exact ⟨t,suffix.trans (List.suffix_cons c rest),hit⟩
    · intro found
      obtain ⟨t,suffix,hit⟩ := found
      rcases List.suffix_cons_iff.mp suffix with rfl | later
      · exact .inl hit
      · exact .inr ⟨t,later,hit⟩

/-- No character of a pattern is one that LIKE reads as syntax. -/
def Plain (pattern : List Char) : Prop := ∀ c ∈ pattern, c ≠ '%' ∧ c ≠ '_' ∧ c ≠ '\\'

instance (pattern : List Char) : Decidable (Plain pattern) :=
  decidable_of_iff (pattern.all fun c => c != '%' && c != '_' && c != '\\') (by simp [Plain,and_assoc])

/-- A plain character stands for itself. -/
theorem like_cons_plain {c : Char} (plain : c ≠ '%' ∧ c ≠ '_' ∧ c ≠ '\\') (pattern s : List Char) :
    like (c :: pattern) s = true ↔ ∃ t, s = c :: t ∧ like pattern t = true := by
  obtain ⟨percent,underscore,slash⟩ := plain
  cases s with
  | nil => simp [like,slash]
  | cons d t => simp [like,slash]

theorem like_append_plain {q : List Char} (plain : Plain q) (rest s : List Char) :
    like (q ++ rest) s = true ↔ ∃ t, s = q ++ t ∧ like rest t = true := by
  induction q generalizing s with
  | nil => simp
  | cons c q ih =>
    have later := ih fun d member => plain d (by simp [member])
    rw [List.cons_append,like_cons_plain (plain c (by simp))]
    simp only [later]
    constructor
    · intro matched
      obtain ⟨_,rfl,t,rfl,hit⟩ := matched
      exact ⟨t,rfl,hit⟩
    · intro matched
      obtain ⟨t,rfl,hit⟩ := matched
      exact ⟨q ++ t,rfl,t,rfl,hit⟩

theorem like_percent (s : List Char) : like ['%'] s = true := by
  rw [like,anySuffix_iff]
  exact ⟨[],List.nil_suffix,rfl⟩

/-- Between two wildcards, a plain text matches wherever it occurs. -/
theorem like_infix_iff {q : List Char} (plain : Plain q) (s : List Char) :
    like ('%' :: (q ++ ['%'])) s = true ↔ q <:+: s := by
  rw [like,anySuffix_iff]
  simp only [like_append_plain plain,like_percent,and_true]
  constructor
  · intro found
    obtain ⟨_,⟨before,rfl⟩,after,rfl⟩ := found
    exact ⟨before,after,by simp⟩
  · intro inside
    obtain ⟨before,after,rfl⟩ := inside
    exact ⟨q ++ after,⟨before,by simp⟩,after,rfl⟩

end Relational
