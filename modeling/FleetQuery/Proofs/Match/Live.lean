import FleetQuery.Match.Live

/-!
# Operators and patterns of live values

Every sort of live value knows some operators.  With these, only the pattern of a comparison can
be at fault (`Live.isPatternError_of_compare`).  Whether it is at fault is seen from the sort alone:
`Live.patternFault?` says what a live value has against a pattern, and with every operator and at
every instant the comparison fails for its pattern if and only if this is something
(`Live.patternFault?_eq_some_iff`).
-/

namespace FleetQuery

/-- The operators that a live value knows. -/
def Live.operators : Live → List Operator
  | flag _ => Operator.all
  | text _ => [.eq, .neq, .like, .notLike]
  | integer _ | size _ | age _ => [.eq, .gt]
  | texts _ => [.eq, .like]
  | label _ => [.is, .eq, .neq, .like, .notLike]

/-- What a live value has against a pattern: it wants an integer, a size or a duration, and the
pattern is none. -/
def Live.patternFault? (live : Live) (pattern : String) : Option QueryError :=
  match live with
  | flag _ | text _ | texts _ | label _ => none
  | integer _ =>
    match readInteger? (trim pattern.toList) with
    | none => some (.comparison (.notNumeric pattern))
    | some _ => none
  | size _ =>
    match parseSize pattern with
    | .error e => some (.literal e)
    | .ok _ => none
  | age _ =>
    match parseDuration pattern with
    | .error e => some (.literal e)
    | .ok _ => none

variable {op : Operator} {pattern : String} {err : QueryError}

/-- **A comparison fails for its pattern or for its operator**: for the pattern if the live value
has something against it, else only for an operator that the value does not know. -/
theorem Live.compare_cases (live : Live) (now : Instant) (op : Operator) (pattern : String) :
    (∃ err, live.patternFault? pattern = some err ∧ err.isPatternError = true ∧
      live.compare now op pattern = .error err) ∨
    live.patternFault? pattern = none ∧
      ((∃ b, live.compare now op pattern = .ok b) ∨
        op ∉ live.operators ∧
          ∃ sort, live.compare now op pattern = .error (.comparison (.unsupported sort op))) := by
  cases live with
  | flag answer => exact .inr ⟨rfl, .inl ⟨answer, rfl⟩⟩
  | text value | texts values | label value? =>
    refine .inr ⟨rfl, ?_⟩
    cases op <;> first | exact .inl ⟨_, rfl⟩ | exact .inr ⟨by simp [operators], _, rfl⟩
  | integer value | size value | age since? =>
    -- the pattern is read before the operator is looked at
    simp only [patternFault?]
    split <;> rename_i hread
    · exact .inl ⟨_, rfl, rfl, by
        simp only [compare_eq, compareInteger, compareSize, compareAge_eq, hread]⟩
    · refine .inr ⟨rfl, ?_⟩
      simp only [compare_eq, compareInteger, compareSize, compareAge_eq, hread]
      cases op <;> first | exact .inl ⟨_, rfl⟩ | exact .inr ⟨by simp [operators], _, rfl⟩

/-- **With an operator that the value knows, only the pattern can be at fault.** -/
theorem Live.isPatternError_of_compare {now : Instant} {live : Live} (hop : op ∈ live.operators)
    (h : live.compare now op pattern = .error err) : err.isPatternError = true := by
  obtain ⟨fault, -, hfault, hcompare⟩ | ⟨-, ⟨b, hcompare⟩ | ⟨hunknown, -⟩⟩ :=
    live.compare_cases now op pattern
  · rw [hcompare] at h
    cases h
    exact hfault
  · rw [hcompare] at h
    cases h
  · exact absurd hop hunknown

/-- **The pattern is judged without the value**: with every operator and at every instant, the
comparison fails for its pattern if the value has something against the pattern, and only then. -/
theorem Live.patternFault?_eq_some_iff (live : Live) (now : Instant) (op : Operator) :
    live.patternFault? pattern = some err ↔
      live.compare now op pattern = .error err ∧ err.isPatternError = true := by
  obtain ⟨fault, hsome, hfault, hcompare⟩ | ⟨hnone, ⟨b, hcompare⟩ | ⟨-, sort, hcompare⟩⟩ :=
    live.compare_cases now op pattern
  · rw [hsome, hcompare]
    constructor
    · rintro ⟨rfl⟩
      exact ⟨rfl, hfault⟩
    · rintro ⟨⟨rfl⟩, -⟩
      rfl
  · simp [hnone, hcompare]
  · rw [hnone, hcompare]
    constructor
    · rintro ⟨⟩
    · rintro ⟨⟨rfl⟩, ⟨⟩⟩

/-! ### The clock -/

section Clock

variable {m : Type → Type} [Monad m] [LawfulMonad m]

/-- **The clock is read once or not at all**: not if the answer is the same at every instant, and
once if the answer is that of the instant which the clock gives. -/
theorem Live.run_compareM (live : Live) (clock : m Instant) (op : Operator) (pattern : String) :
    (∃ answer, (∀ now, live.compare now op pattern = answer) ∧
      (live.compareM clock op pattern).run = pure answer) ∨
    (live.compareM clock op pattern).run = (live.compare · op pattern) <$> clock := by
  cases live with
  | flag _ | text _ | integer _ | size _ | texts _ | label _ => exact .inl ⟨_, fun _ => rfl, rfl⟩
  | age since? =>
    simp only [compareM, compareAgeM, compare_eq, compareAge_eq]
    cases parseDuration pattern with
    | error e => exact .inl ⟨_, fun _ => rfl, rfl⟩
    | ok milliseconds =>
      cases op <;> cases since? <;>
        first | exact .inl ⟨_, fun _ => rfl, rfl⟩ | exact .inr (by simp [Except.map])

theorem Live.run_compareM_pure (live : Live) (now : Instant) (op : Operator) (pattern : String) :
    (live.compareM (pure now : m Instant) op pattern).run = pure (live.compare now op pattern) := by
  obtain ⟨answer, hall, hrun⟩ | hrun := live.run_compareM (pure now : m Instant) op pattern
  · rw [hrun, hall]
  · rw [hrun, map_pure]

end Clock

end FleetQuery
