import HyderabadHomes.Routing.Pattern

/-! The text of a path. Repeated and trailing slashes do not count, and what follows a
single dot in the last segment is the format that is asked for. -/
namespace Routing

def url : List String → String
  | [] => "/"
  | part :: parts => String.ofList (List.intercalate ['/'] ([] :: (part :: parts).map String.toList))

def segments (text : String) : List String := ((text.toList.splitOn '/').filter (· ≠ [])).map String.ofList

def splitFormat (last : String) : String × Option String :=
  match last.toList.splitOn '.' with
  | [base,format] => if base ≠ [] ∧ format ≠ [] then (String.ofList base,some (String.ofList format)) else (last,none)
  | _ => (last,none)

def parse (text : String) : List String × Option String :=
  match (segments text).reverse with
  | [] => ([],none)
  | last :: front => (front.reverse ++ [(splitFormat last).1],(splitFormat last).2)

theorem segments_url {parts : List String} (plain : ∀ part ∈ parts, Plain part) : segments (url parts) = parts := by
  cases parts with
  | nil => decide
  | cons part parts =>
    have apart : ∀ text ∈ [] :: (part :: parts).map String.toList, '/' ∉ text := by
      intro text member
      rcases List.mem_cons.mp member with rfl | inside
      · exact List.not_mem_nil
      · obtain ⟨other,present,rfl⟩ := List.mem_map.mp inside
        exact fun slash => ((plain other present).2 '/' slash).1 rfl
    have filled : ((part :: parts).map String.toList).filter (· ≠ []) = (part :: parts).map String.toList := by
      apply List.filter_eq_self.mpr
      intro text member
      obtain ⟨other,present,rfl⟩ := List.mem_map.mp member
      simpa using (plain other present).1
    unfold segments url
    rw [String.toList_ofList,List.splitOn_intercalate '/' apart (by simp),List.filter_cons_of_neg (by simp),filled,
      List.map_map]
    simp [Function.comp_def]

theorem splitFormat_of_plain {last : String} (plain : Plain last) : splitFormat last = (last,none) := by
  have whole : last.toList.splitOn '.' = [last.toList] :=
    List.splitOn_eq_singleton fun dot => (plain.2 '.' dot).2 rfl
  unfold splitFormat
  rw [whole]

/-- What is written without a format is parsed back. -/
theorem parse_url {parts : List String} (plain : ∀ part ∈ parts, Plain part) : parse (url parts) = (parts,none) := by
  unfold parse
  rw [segments_url plain]
  cases turned : parts.reverse with
  | nil => rw [List.reverse_eq_nil_iff.mp turned]
  | cons last front =>
    have inside : last ∈ parts := by
      rw [← List.mem_reverse,turned]
      simp
    simp only [splitFormat_of_plain (plain last inside)]
    rw [← List.reverse_cons,← turned,List.reverse_reverse]

example : parse "//users/profiles/5.xml/" = (["users","profiles","5"],some "xml") := by decide

end Routing
