import Mathlib.Data.List.Basic

/-! Routes of a web application: patterns of literal and dynamic segments, tried in their
order. A pattern recognizes what it generates. A table gives a generated path back to its
route unless an earlier route reads the path too; `shadow` says for which values it does. -/
namespace Routing

inductive Verb
  | get
  | post
  | put
  | delete
deriving DecidableEq,Repr

inductive Segment
  | literal (text : String)
  | dynamic (key : String)
deriving DecidableEq,Repr

abbrev Params := List (String × String)

def Plain (value : String) : Prop := value ≠ "" ∧ ∀ c ∈ value.toList, c ≠ '/' ∧ c ≠ '.'

instance (value : String) : Decidable (Plain value) :=
  decidable_of_iff (value ≠ "" ∧ (value.toList.all fun c => c != '/' && c != '.')) (by simp [Plain])

structure Route (T : Type) where
  verb : Verb
  pattern : List Segment
  target : T
deriving DecidableEq,Repr

def read : List Segment → List String → Option Params
  | [],[] => some []
  | .literal text :: pattern,part :: parts => if part = text then read pattern parts else none
  | .dynamic key :: pattern,part :: parts => if Plain part then (read pattern parts).map ((key,part) :: ·) else none
  | _,_ => none

def write : List Segment → Params → Option (List String)
  | [],[] => some []
  | .literal text :: pattern,params => (write pattern params).map (text :: ·)
  | .dynamic key :: pattern,(name,value) :: params =>
    if name = key then (write pattern params).map (value :: ·) else none
  | _,_ => none

def keys : List Segment → List String
  | [] => []
  | .literal _ :: pattern => keys pattern
  | .dynamic key :: pattern => key :: keys pattern

/-- What is read has the keys of the pattern. -/
theorem keys_of_read {pattern : List Segment} {parts : List String} {params : Params}
    (found : read pattern parts = some params) : params.map (·.1) = keys pattern := by
  induction pattern generalizing parts params with
  | nil =>
    cases parts with
    | nil =>
      cases found
      rfl
    | cons part parts => cases found
  | cons segment pattern ih =>
    cases parts with
    | nil => cases segment <;> cases found
    | cons part parts =>
      cases segment with
      | literal text =>
        rw [read] at found
        split at found
        · exact ih found
        · cases found
      | dynamic key =>
        rw [read] at found
        split at found
        · obtain ⟨later,here,rfl⟩ := Option.map_eq_some_iff.mp found
          rw [List.map_cons,ih here,keys]
        · cases found

/-- A pattern reads the paths that it writes, and no others. -/
theorem read_eq_some_iff {pattern : List Segment} {parts : List String} {params : Params} :
    read pattern parts = some params ↔ write pattern params = some parts ∧ ∀ p ∈ params, Plain p.2 := by
  induction pattern generalizing parts params with
  | nil => cases parts <;> cases params <;> simp [read,write]
  | cons segment pattern ih =>
    cases segment with
    | literal text =>
      cases parts with
      | nil => simp [read,write]
      | cons part parts =>
        simp only [read,write,Option.map_eq_some_iff,List.cons.injEq]
        split
        · rename_i same
          rw [ih]
          exact ⟨fun both => ⟨⟨parts,both.1,same.symm,rfl⟩,both.2⟩,fun both => by
            obtain ⟨⟨_,written,_,rfl⟩,plain⟩ := both
            exact ⟨written,plain⟩⟩
        · rename_i other
          refine ⟨nofun,fun both => ?_⟩
          obtain ⟨⟨_,_,same,_⟩,_⟩ := both
          exact absurd same.symm other
    | dynamic key =>
      cases parts with
      | nil =>
        cases params with
        | nil => simp [read,write]
        | cons p params => simp [read,write]
      | cons part parts =>
        cases params with
        | nil => simp [read,write]
        | cons p params =>
          obtain ⟨name,value⟩ := p
          simp only [read,write]
          by_cases plain : Plain part
          · by_cases named : name = key
            · simp only [if_pos plain,if_pos named,Option.map_eq_some_iff,List.cons.injEq,Prod.mk.injEq,ih,List.forall_mem_cons]
              constructor
              · intro found
                obtain ⟨_,⟨written,later⟩,⟨_,rfl⟩,rfl⟩ := found
                exact ⟨⟨parts,written,rfl,rfl⟩,plain,later⟩
              · intro found
                obtain ⟨⟨_,written,rfl,rfl⟩,_,later⟩ := found
                exact ⟨params,⟨written,later⟩,⟨named.symm,rfl⟩,rfl⟩
            · have other : key ≠ name := fun same => named same.symm
              simp [if_pos plain,if_neg named,other]
          · simp only [if_neg plain,reduceCtorEq,false_iff,not_and,List.forall_mem_cons]
            intro written first
            split at written
            · obtain ⟨_,_,same⟩ := Option.map_eq_some_iff.mp written
              cases same
              exact absurd first plain
            · cases written

section Tables
variable {T : Type}

def Route.read (route : Route T) (verb : Verb) (parts : List String) : Option Params :=
  if route.verb = verb then Routing.read route.pattern parts else none

def recognize (routes : List (Route T)) (verb : Verb) (parts : List String) : Option (T × Params) :=
  routes.findSome? fun route => (route.read verb parts).map (route.target,·)

theorem recognize_mem {routes : List (Route T)} {verb : Verb} {parts : List String} {target : T} {params : Params}
    (recognized : recognize routes verb parts = some (target,params)) :
    ∃ route ∈ routes, route.verb = verb ∧ route.target = target ∧ Routing.read route.pattern parts = some params := by
  obtain ⟨route,member,read⟩ := List.exists_of_findSome?_eq_some recognized
  obtain ⟨_,found,same⟩ := Option.map_eq_some_iff.mp read
  cases same
  unfold Route.read at found
  split at found
  · exact ⟨route,member,‹_›,rfl,found⟩
  · cases found

theorem recognize_append (front rest : List (Route T)) (verb : Verb) (parts : List String) :
    recognize (front ++ rest) verb parts = (recognize front verb parts).or (recognize rest verb parts) :=
  List.findSome?_append

theorem recognize_eq_none_iff {routes : List (Route T)} {verb : Verb} {parts : List String} :
    recognize routes verb parts = none ↔ ∀ route ∈ routes, route.verb = verb → Routing.read route.pattern parts = none := by
  simp only [recognize,List.findSome?_eq_none_iff,Option.map_eq_none_iff,Route.read]
  refine forall₂_congr fun route _ => ?_
  split
  · rename_i same
    simp [same]
  · rename_i other
    simp [other]

/-- A path goes to the route that reads it exactly when none before does, where those with
the same target do not read it. -/
theorem recognize_iff_unread {front rest : List (Route T)} {route : Route T} {parts : List String} {params : Params}
    (read : Routing.read route.pattern parts = some params)
    (own : ∀ other ∈ front, other.verb = route.verb → other.target = route.target → Routing.read other.pattern parts = none) :
    recognize (front ++ route :: rest) route.verb parts = some (route.target,params) ↔
      ∀ other ∈ front, other.verb = route.verb → Routing.read other.pattern parts = none := by
  rw [recognize_append,← recognize_eq_none_iff]
  cases before : recognize front route.verb parts with
  | none =>
    have here : route.read route.verb parts = some params := by
      unfold Route.read
      rw [if_pos rfl,read]
    simp [recognize,here]
  | some answer =>
    obtain ⟨target,found⟩ := answer
    obtain ⟨other,member,verb,same,reads⟩ := recognize_mem before
    simp only [Option.some_or,Option.some.injEq,Prod.mk.injEq,reduceCtorEq,iff_false,not_and]
    intro equal
    have unread := own other member verb (same.trans equal)
    rw [reads] at unread
    cases unread

end Tables

/-- The values of the second pattern's dynamic segments with which the first pattern reads
its path too; `none` stands for any value. -/
def shadow : List Segment → List Segment → Option (List (Option String))
  | [],[] => some []
  | .literal text :: first,.literal text' :: second => if text = text' then shadow first second else none
  | .literal text :: first,.dynamic _ :: second => (shadow first second).map (some text :: ·)
  | .dynamic _ :: first,.literal text :: second => if Plain text then shadow first second else none
  | .dynamic _ :: first,.dynamic _ :: second => (shadow first second).map (none :: ·)
  | _,_ => none

def Taken : List (Option String) → Params → Prop
  | [],[] => True
  | word :: words,(_,value) :: params => (∀ text ∈ word, value = text) ∧ Taken words params
  | _,_ => False

theorem write_literal {text : String} {pattern : List Segment} {params : Params} {parts : List String}
    (written : write (.literal text :: pattern) params = some parts) :
    ∃ rest, parts = text :: rest ∧ write pattern params = some rest := by
  obtain ⟨rest,found,rfl⟩ := Option.map_eq_some_iff.mp written
  exact ⟨rest,rfl,found⟩

theorem write_dynamic {key : String} {pattern : List Segment} {params : Params} {parts : List String}
    (written : write (.dynamic key :: pattern) params = some parts) :
    ∃ value later rest, params = (key,value) :: later ∧ parts = value :: rest ∧ write pattern later = some rest := by
  cases params with
  | nil => cases written
  | cons p later =>
    obtain ⟨name,value⟩ := p
    rw [write] at written
    split at written
    · rename_i same
      obtain ⟨rest,found,rfl⟩ := Option.map_eq_some_iff.mp written
      exact ⟨value,later,rest,by rw [same],rfl,found⟩
    · cases written

/-- The first pattern reads a path that the second has written exactly for its shadow. -/
theorem read_isSome_iff_shadow {first second : List Segment} {params : Params} {parts : List String}
    (written : write second params = some parts) (plain : ∀ p ∈ params, Plain p.2) :
    (read first parts).isSome ↔ ∃ words, shadow first second = some words ∧ Taken words params := by
  induction second generalizing first params parts with
  | nil =>
    cases params with
    | cons p params => cases written
    | nil =>
      cases written
      cases first with
      | nil => simp [read,shadow,Taken]
      | cons segment first => cases segment <;> simp [read,shadow]
  | cons segment second ih =>
    cases segment with
    | literal text' =>
      obtain ⟨rest,rfl,later⟩ := write_literal written
      cases first with
      | nil => simp [read,shadow]
      | cons segment first =>
        cases segment with
        | literal text =>
          simp only [read,shadow,eq_comm (a := text')]
          split
          · exact ih later plain
          · simp
        | dynamic key =>
          simp only [read,shadow]
          split
          · simp only [Option.isSome_map]
            exact ih later plain
          · simp
    | dynamic key' =>
      obtain ⟨value,params,rest,rfl,rfl,later⟩ := write_dynamic written
      obtain ⟨here,plain⟩ := List.forall_mem_cons.mp plain
      cases first with
      | nil => simp [read,shadow]
      | cons segment first =>
        cases segment with
        | literal text =>
          simp only [read,shadow,Option.map_eq_some_iff]
          split
          · rename_i same
            rw [ih later plain]
            constructor
            · intro taken
              obtain ⟨words,shades,fits⟩ := taken
              exact ⟨some text :: words,⟨words,shades,rfl⟩,by simp [same],fits⟩
            · intro taken
              obtain ⟨_,⟨words,shades,rfl⟩,_,fits⟩ := taken
              exact ⟨words,shades,fits⟩
          · rename_i other
            simp only [Option.isSome_none,Bool.false_eq_true,false_iff,not_exists,not_and]
            intro _ taken
            obtain ⟨words,_,rfl⟩ := taken
            exact fun fits => other (fits.1 text rfl)
        | dynamic key =>
          simp only [read,shadow,if_pos here,Option.isSome_map,ih later plain,Option.map_eq_some_iff]
          constructor
          · intro taken
            obtain ⟨words,shades,fits⟩ := taken
            exact ⟨none :: words,⟨words,shades,rfl⟩,by simp,fits⟩
          · intro taken
            obtain ⟨_,⟨words,shades,rfl⟩,_,fits⟩ := taken
            exact ⟨words,shades,fits⟩

section Reserved
variable {T : Type}

def reserved (front : List (Route T)) (route : Route T) : List (List (Option String)) :=
  front.filterMap fun other => if other.verb = route.verb then shadow other.pattern route.pattern else none

/-- A generated path is recognized as the route that it was generated from, with its
values, exactly when these are not reserved. -/
theorem recognize_written_iff {front rest : List (Route T)} {route : Route T} {params : Params} {parts : List String}
    (written : write route.pattern params = some parts) (plain : ∀ p ∈ params, Plain p.2)
    (own : ∀ other ∈ front, other.verb = route.verb → other.target = route.target →
      shadow other.pattern route.pattern = none) :
    recognize (front ++ route :: rest) route.verb parts = some (route.target,params) ↔
      ∀ words ∈ reserved front route, ¬ Taken words params := by
  have unread : ∀ other ∈ front, other.verb = route.verb → other.target = route.target → read other.pattern parts = none := by
    intro other member verb same
    by_contra reads
    obtain ⟨words,shades,_⟩ := (read_isSome_iff_shadow written plain).mp (Option.isSome_iff_ne_none.mpr reads)
    rw [own other member verb same] at shades
    cases shades
  rw [recognize_iff_unread (read_eq_some_iff.mpr ⟨written,plain⟩) unread]
  constructor
  · intro unread words member taken
    obtain ⟨other,inside,shades⟩ := List.mem_filterMap.mp member
    split at shades
    · rename_i verb
      have reads := (read_isSome_iff_shadow written plain).mpr ⟨words,shades,taken⟩
      rw [unread other inside verb] at reads
      cases reads
    · cases shades
  · intro free other member verb
    by_contra reads
    obtain ⟨words,shades,taken⟩ := (read_isSome_iff_shadow written plain).mp (Option.isSome_iff_ne_none.mpr reads)
    exact free words (List.mem_filterMap.mpr ⟨other,member,by rw [if_pos verb,shades]⟩) taken

/-- In this order of the routes each one is kept from the listed words as the value of its
one dynamic segment, and from nothing else. -/
def Reserves (words : T → List String) : List (Route T) → List (Route T) → Prop
  | _,[] => True
  | front,route :: rest =>
    ((∀ other ∈ front, other.verb = route.verb → other.target = route.target →
        shadow other.pattern route.pattern = none) ∧
      reserved front route = (words route.target).map fun word => [some word]) ∧
    Reserves words (front ++ [route]) rest

instance Reserves.decidable [DecidableEq T] (words : T → List String) :
    (front routes : List (Route T)) → Decidable (Reserves words front routes)
  | _,[] => inferInstanceAs (Decidable True)
  | front,route :: rest =>
    have : Decidable (Reserves words (front ++ [route]) rest) := Reserves.decidable words (front ++ [route]) rest
    inferInstanceAs (Decidable ((_ ∧ _) ∧ _))

theorem taken_word {word : String} {params : Params} : Taken [some word] params ↔ params.map (·.2) = [word] := by
  cases params with
  | nil => simp [Taken]
  | cons p params => cases params <;> simp [Taken]

theorem Reserves.recognize_iff {words : T → List String} {front rest : List (Route T)} {route : Route T} {params : Params}
    {parts : List String} (reserves : Reserves words front rest) (member : route ∈ rest)
    (written : write route.pattern params = some parts) (plain : ∀ p ∈ params, Plain p.2) :
    recognize (front ++ rest) route.verb parts = some (route.target,params) ↔
      ∀ word ∈ words route.target, params.map (·.2) ≠ [word] := by
  induction rest generalizing front with
  | nil => cases member
  | cons first rest ih =>
    obtain ⟨⟨own,listed⟩,later⟩ := reserves
    rcases List.mem_cons.mp member with rfl | inside
    · rw [recognize_written_iff written plain own,listed,List.forall_mem_map]
      simp only [taken_word,ne_eq]
    · rw [← ih later inside,List.append_assoc]
      rfl

def Segment.Writable : Segment → Prop
  | .literal text => Plain text
  | .dynamic _ => True

instance : DecidablePred Segment.Writable
  | .literal text => inferInstanceAs (Decidable (Plain text))
  | .dynamic _ => inferInstanceAs (Decidable True)

theorem write_plain {pattern : List Segment} {params : Params} {parts : List String}
    (written : write pattern params = some parts) (writable : ∀ segment ∈ pattern, segment.Writable) (plain : ∀ p ∈ params, Plain p.2) :
    ∀ part ∈ parts, Plain part := by
  induction pattern generalizing params parts with
  | nil =>
    cases params with
    | nil =>
      cases written
      exact fun part member => by cases member
    | cons p params => cases written
  | cons segment pattern ih =>
    cases segment with
    | literal text =>
      obtain ⟨rest,rfl,later⟩ := write_literal written
      obtain ⟨first,writable⟩ := List.forall_mem_cons.mp writable
      exact List.forall_mem_cons.mpr ⟨first,ih later writable plain⟩
    | dynamic key =>
      obtain ⟨value,params,rest,rfl,rfl,later⟩ := write_dynamic written
      obtain ⟨here,plain⟩ := List.forall_mem_cons.mp plain
      obtain ⟨_,writable⟩ := List.forall_mem_cons.mp writable
      exact List.forall_mem_cons.mpr ⟨here,ih later writable plain⟩

end Reserved
end Routing
