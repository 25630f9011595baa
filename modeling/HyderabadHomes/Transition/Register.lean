import HyderabadHomes.Transition.Run

/-! Registers: parts of the state that some steps write and all others leave alone. What a
register holds is told by the history of the run, as the last value written. -/
namespace Transition

variable {S A V : Type} (step : S → A → S) (write : S → A → Option V)

def Wrote (s : S) (acts : List A) (i : Nat) (value : V) : Prop :=
  ∃ act, acts[i]? = some act ∧ write (stateAt step s acts i) act = some value

def Quiet (s : S) (acts : List A) (i j : Nat) : Prop :=
  ∀ n act, i ≤ n → n < j → acts[n]? = some act → write (stateAt step s acts n) act = none

theorem quiet_self (s : S) (acts : List A) (i : Nat) : Quiet step write s acts i i := by
  intro n act low high
  omega

theorem quiet_succ_iff {s : S} {acts : List A} {i j : Nat} (order : i ≤ j) :
    Quiet step write s acts i (j+1) ↔
      Quiet step write s acts i j ∧ ∀ act, acts[j]? = some act → write (stateAt step s acts j) act = none := by
  constructor
  · intro quiet
    exact ⟨fun n act low high => quiet n act low (Nat.lt_succ_of_lt high),fun act => quiet j act order (Nat.lt_succ_self j)⟩
  · intro quiet n act low high taken
    rcases Nat.lt_succ_iff_lt_or_eq.mp high with before | here
    · exact quiet.1 n act low before taken
    · subst here
      exact quiet.2 act taken

/-- The value was written and nothing has been since, or it was there at the start. -/
def Last (s : S) (acts : List A) (start : Prop) (j : Nat) (value : V) : Prop :=
  (∃ i, i < j ∧ Wrote step write s acts i value ∧ Quiet step write s acts (i+1) j) ∨
    (start ∧ Quiet step write s acts 0 j)

theorem last_succ_of_quiet {s : S} {acts : List A} {start : Prop} {j : Nat} {value : V}
    (quiet : ∀ act, acts[j]? = some act → write (stateAt step s acts j) act = none) :
    Last step write s acts start (j+1) value ↔ Last step write s acts start j value := by
  have same : ∀ i, i ≤ j → (Quiet step write s acts i (j+1) ↔ Quiet step write s acts i j) := by
    intro i order
    rw [quiet_succ_iff step write order]
    exact and_iff_left quiet
  unfold Last
  rw [same 0 (Nat.zero_le j)]
  apply or_congr_left
  constructor
  · intro written
    obtain ⟨i,before,wrote,since⟩ := written
    rcases Nat.lt_succ_iff_lt_or_eq.mp before with earlier | here
    · exact ⟨i,earlier,wrote,(same (i+1) earlier).mp since⟩
    · subst here
      obtain ⟨act,taken,value⟩ := wrote
      rw [quiet act taken] at value
      cases value
  · intro written
    obtain ⟨i,before,wrote,since⟩ := written
    exact ⟨i,Nat.lt_succ_of_lt before,wrote,(same (i+1) before).mpr since⟩

theorem last_succ_of_write {s : S} {acts : List A} {start : Prop} {j : Nat} {act : A} {written value : V}
    (taken : acts[j]? = some act) (wrote : write (stateAt step s acts j) act = some written) :
    Last step write s acts start (j+1) value ↔ written = value := by
  have loud : ∀ i, i ≤ j → ¬ Quiet step write s acts i (j+1) := by
    intro i order quiet
    rw [quiet j act order (Nat.lt_succ_self j) taken] at wrote
    cases wrote
  constructor
  · intro last
    rcases last with ⟨i,before,⟨act',taken',here⟩,since⟩ | ⟨_,since⟩
    · rcases Nat.lt_succ_iff_lt_or_eq.mp before with earlier | same
      · exact absurd since (loud (i+1) earlier)
      · subst same
        rw [taken] at taken'
        cases taken'
        rw [wrote] at here
        exact Option.some.inj here
    · exact absurd since (loud 0 (Nat.zero_le j))
  · intro same
    subst same
    exact .inl ⟨j,Nat.lt_succ_self j,⟨act,taken,wrote⟩,quiet_self step write s acts (j+1)⟩

/-- A register holds what was last written to it. -/
theorem register_iff {reg : S → V} (writes : ∀ s act, reg (step s act) = (write s act).getD (reg s)) (s : S)
    (acts : List A) (j : Nat) (value : V) :
    reg (stateAt step s acts j) = value ↔ Last step write s acts (reg s = value) j value := by
  induction j with
  | zero =>
    constructor
    · intro start
      exact .inr ⟨start,quiet_self step write s acts 0⟩
    · intro last
      rcases last with ⟨i,before,_⟩ | ⟨start,_⟩
      · omega
      · exact start
  | succ j ih =>
    cases taken : acts[j]? with
    | none =>
      rw [stateAt_past step s taken,ih]
      apply (last_succ_of_quiet step write fun act later => ?_).symm
      rw [taken] at later
      cases later
    | some act =>
      rw [stateAt_succ step s taken,writes]
      cases wrote : write (stateAt step s acts j) act with
      | none =>
        rw [Option.getD_none,ih]
        apply (last_succ_of_quiet step write fun act' same => ?_).symm
        rw [taken] at same
        cases same
        exact wrote
      | some written => exact (last_succ_of_write step write taken wrote).symm

end Transition
