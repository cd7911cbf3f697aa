import FleetQuery.Proofs.Match.Integer
import FleetQuery.Proofs.Match.Live
import FleetQuery.Proofs.Time.Timeline

/-!
# Thresholds

Integers, numbers of bytes and ages are compared with numbers.  The pattern is read as the number
that it stands for, and the comparison is one of whole numbers, whatever the spelling of the pattern
and however large the number:

* `Live.quantity?` : the number that a live value has at an instant, ages in nanoseconds;
* `Live.StandsFor` : the number that a pattern stands for;
* `Live.Threshold` : the patterns that are accepted are those that stand for a number, and the
  comparisons are exact; so what is beyond a threshold is beyond every lower one, and nothing is
  both at a threshold and beyond it;
* `Ageing` : the age of a time is exact to the nanosecond, so what is older than a duration stays
  so, and a time has the age of a duration at one instant only;
* `compare_thresholds` : **all live values that are compared with numbers have the first property,
  and all times but leap seconds have the second.**
-/

namespace FleetQuery

variable {live : Live} {now : Instant} {op : Operator} {p q : String} {n : Int}

/-! ### Numbers -/

namespace Live

/-- The live value is compared with numbers. -/
def IsQuantity : Live → Prop
  | integer _ | size _ | age _ => True
  | flag _ | text _ | texts _ | label _ => False

/-- The number that a live value has: the integer, the bytes, or the nanoseconds since a time that
is set. -/
def quantity? (now : Instant) : Live → Option Int
  | integer value | size value => some value
  | age since? => since?.map now.since
  | flag _ | text _ | texts _ | label _ => none

/-- The pattern stands for the number when it is compared with the live value: it is an integer, or
a literal whose value is one; durations are in nanoseconds. -/
def StandsFor (live : Live) (pattern : String) (n : Int) : Prop :=
  match live with
  | integer _ => DenotesInteger pattern n
  | size _ => ∃ bytes : Nat, Scale.size.IsLiteral pattern.toList bytes ∧ bytes ≤ 2 ^ 63 - 1 ∧
      n = bytes
  | age _ => ∃ milliseconds : Nat, Scale.duration.IsLiteral pattern.toList milliseconds ∧
      milliseconds ≤ 2 ^ 63 - 1 ∧ n = 10 ^ 6 * milliseconds
  | flag _ | text _ | texts _ | label _ => False

/-- **Comparisons with a number are exact.** -/
theorem StandsFor.compare_eq (h : live.StandsFor p n) (now : Instant) :
    live.compare now .eq p = .ok ((live.quantity? now).any (· == n)) ∧
      live.compare now .gt p = .ok ((live.quantity? now).any (n < ·)) := by
  cases live with
  | integer value =>
    simp only [Live.compare_eq, compareInteger, readInteger?_trim_eq_some_iff.mpr h]
    exact ⟨rfl, rfl⟩
  | size value =>
    obtain ⟨bytes, hliteral, hfits, rfl⟩ := h
    have hread : parseSize p = .ok bytes := ((parse_readAs p).2.ok bytes).mpr ⟨hliteral, hfits⟩
    simp only [Live.compare_eq, compareSize, hread]
    exact ⟨rfl, rfl⟩
  | age since? =>
    obtain ⟨milliseconds, hliteral, hfits, rfl⟩ := h
    have hread : parseDuration p = .ok milliseconds :=
      ((parse_readAs p).1.ok milliseconds).mpr ⟨hliteral, hfits⟩
    simp only [Live.compare_eq, compareAge_eq, hread]
    cases since? <;> exact ⟨rfl, rfl⟩
  | flag _ | text _ | texts _ | label _ => exact h.elim

theorem exists_standsFor_of_compare {b : Bool} (h : live.compare now op p = .ok b)
    (hquantity : live.IsQuantity) : ∃ n, live.StandsFor p n := by
  cases live with
  | integer value =>
    simp only [compare_eq, compareInteger] at h
    split at h
    · cases h
    · rename_i n hread
      exact ⟨n, readInteger?_trim_eq_some_iff.mp hread⟩
  | size value =>
    simp only [compare_eq, compareSize] at h
    split at h
    · cases h
    · rename_i bytes hread
      obtain ⟨hliteral, hfits⟩ := ((parse_readAs p).2.ok bytes).mp hread
      exact ⟨_, bytes, hliteral, hfits, rfl⟩
  | age since? =>
    simp only [compare_eq, compareAge_eq] at h
    split at h
    · cases h
    · rename_i milliseconds hread
      obtain ⟨hliteral, hfits⟩ := ((parse_readAs p).1.ok milliseconds).mp hread
      exact ⟨_, milliseconds, hliteral, hfits, rfl⟩
  | flag _ | text _ | texts _ | label _ => exact hquantity.elim

/-! ### Thresholds -/

theorem StandsFor.gt_iff (h : live.StandsFor p n) :
    live.compare now .gt p = .ok true ↔ ∃ a, live.quantity? now = some a ∧ n < a := by
  simp only [(h.compare_eq now).2, Except.ok.injEq, Option.any_eq_true, decide_eq_true_eq]

theorem StandsFor.eq_iff (h : live.StandsFor p n) :
    live.compare now .eq p = .ok true ↔ live.quantity? now = some n := by
  simp only [(h.compare_eq now).1, Except.ok.injEq, Option.any_eq_true, beq_iff_eq,
    exists_eq_right]

/-- A live value is compared with numbers exactly, so that patterns are thresholds. -/
structure Threshold (live : Live) (now : Instant) (p : String) : Prop where
  /-- The patterns that are accepted are those that stand for a number. -/
  accepted : ∀ op ∈ [.eq, .gt], (∃ b, live.compare now op p = .ok b) ↔ ∃ n, live.StandsFor p n
  /-- Equality is that of numbers. -/
  eq : ∀ n, live.StandsFor p n →
    live.compare now .eq p = .ok ((live.quantity? now).any (· == n))
  /-- So is the order. -/
  gt : ∀ n, live.StandsFor p n →
    live.compare now .gt p = .ok ((live.quantity? now).any (n < ·))
  /-- What is beyond a threshold is beyond every lower one. -/
  lower : ∀ q m n, live.StandsFor p m → live.StandsFor q n → m ≤ n →
    live.compare now .gt q = .ok true → live.compare now .gt p = .ok true
  /-- Nothing is both at a threshold and beyond it. -/
  exclusive : ¬ (live.compare now .eq p = .ok true ∧ live.compare now .gt p = .ok true)

theorem IsQuantity.threshold (h : live.IsQuantity) (now : Instant) (p : String) :
    live.Threshold now p where
  accepted := by
    intro op hop
    refine ⟨fun ⟨b, hb⟩ => exists_standsFor_of_compare hb h, fun ⟨n, hn⟩ => ?_⟩
    simp only [List.mem_cons, List.not_mem_nil, or_false] at hop
    rcases hop with rfl | rfl
    · exact ⟨_, (hn.compare_eq now).1⟩
    · exact ⟨_, (hn.compare_eq now).2⟩
  eq _ hn := (hn.compare_eq now).1
  gt _ hn := (hn.compare_eq now).2
  lower := by
    intro q m n hm hn hmn hq
    obtain ⟨a, ha, hlt⟩ := hn.gt_iff.mp hq
    exact hm.gt_iff.mpr ⟨a, ha, hmn.trans_lt hlt⟩
  exclusive := by
    rintro ⟨heq, hgt⟩
    obtain ⟨n, hn⟩ := exists_standsFor_of_compare heq h
    obtain ⟨a, ha, hlt⟩ := hn.gt_iff.mp hgt
    rw [hn.eq_iff.mp heq] at ha
    exact hlt.ne (Option.some.inj ha)

end Live

/-! ### Ageing -/

/-- The age of a time that is no leap second, at instants that are none either. -/
structure Ageing (t : Instant) (p : String) : Prop where
  /-- The age is the number of nanoseconds that have passed. -/
  exact : ∀ now : Instant, now.isLeap = false → now.since t = now.ticks - t.ticks
  /-- From one day of the calendar to the next it grows by a day. -/
  day : ∀ now next : Instant, now.date.next? = some next.date → next.second = now.second →
    next.nanos = now.nanos → next.since t = now.since t + 86400 * 10 ^ 9
  /-- Neither an age nor a duration is too long to be counted in milliseconds with 64 bits. -/
  fits : ∀ (now : Instant) (n : Int), (Live.age (some t)).StandsFor p n →
    |now.since t| ≤ 10 ^ 6 * (2 ^ 63 - 1) ∧ 0 ≤ n ∧ n ≤ 10 ^ 6 * (2 ^ 63 - 1)
  /-- What is older than a duration stays so. -/
  older : ∀ now later : Instant, now.isLeap = false → later.isLeap = false → now ≤ later →
    compareAge now (some t) .gt p = .ok true → compareAge later (some t) .gt p = .ok true
  /-- A time has the age of a duration at one instant at most. -/
  once : ∀ now now' : Instant, now.isLeap = false → now'.isLeap = false →
    compareAge now (some t) .eq p = .ok true → compareAge now' (some t) .eq p = .ok true →
    now = now'

theorem ageing_of_not_isLeap {t : Instant} (ht : t.isLeap = false) (p : String) : Ageing t p where
  exact now hnow := Instant.since_eq ht hnow
  day now next hdate hsecond hnanos := Instant.since_next? hdate hsecond hnanos
  fits := by
    rintro now _ ⟨milliseconds, -, hfits, rfl⟩
    refine ⟨Instant.abs_since_le t now, ?_, ?_⟩ <;> omega
  older := by
    intro now later hnow hlater hle hold
    have hcompare : (Live.age (some t)).compare now .gt p = .ok true := hold
    obtain ⟨n, hn⟩ := Live.exists_standsFor_of_compare hcompare trivial
    obtain ⟨a, ⟨⟩, hlt⟩ := hn.gt_iff.mp hold
    exact hn.gt_iff.mpr ⟨_, rfl, hlt.trans_le (Instant.since_mono ht hnow hlater hle)⟩
  once := by
    intro now now' hnow hnow' heq heq'
    have hcompare : (Live.age (some t)).compare now .eq p = .ok true := heq
    obtain ⟨n, hn⟩ := Live.exists_standsFor_of_compare hcompare trivial
    have hsame : now.since t = now'.since t :=
      Option.some.inj ((hn.eq_iff.mp heq).trans (hn.eq_iff.mp heq').symm)
    rw [Instant.since_eq ht hnow, Instant.since_eq ht hnow'] at hsame
    exact Instant.ticks_inj hnow hnow' (by omega)

/-- **Patterns are thresholds, and time passes.**  Integers, numbers of bytes and ages are compared
exactly with the numbers that patterns stand for; and the age of a time is exact, so that no time
gets younger or has one age twice, leap seconds apart. -/
theorem compare_thresholds :
    (∀ live : Live, live.IsQuantity → ∀ now p, live.Threshold now p) ∧
      ∀ t : Instant, t.isLeap = false → ∀ p, Ageing t p :=
  ⟨fun _ h now p => h.threshold now p, fun _ ht p => ageing_of_not_isLeap ht p⟩

/-- The greatest integer is beyond the one below it, so beyond the least one; after two hours a time
is older than 90 minutes, so older than an hour, and still so on the next day. -/
theorem compare_thresholds_extremes :
    let greatest : Live := .integer 9223372036854775807
    let t : Instant := ⟨⟨2024, 2, 28, by decide⟩, 50400, 0, by decide⟩
    let now : Instant := ⟨⟨2024, 2, 28, by decide⟩, 57600, 0, by decide⟩
    let later : Instant := ⟨⟨2024, 2, 29, by decide⟩, 0, 1, by decide⟩
    greatest.compare now .gt "-9223372036854775808" = .ok true ∧
      (Live.age (some t)).compare now .gt "59m 60s" = .ok true ∧
      compareAge later (some t) .gt "90m" = .ok true := by
  intro greatest t now later
  have hleast : greatest.StandsFor "-9223372036854775808" (-2 ^ 63) :=
    readInteger?_trim_eq_some_iff.mp (by decide +kernel)
  have hbelow : greatest.StandsFor "+9223372036854775806" (2 ^ 63 - 2) :=
    readInteger?_trim_eq_some_iff.mp (by decide +kernel)
  have hduration : ∀ pattern milliseconds, parseDuration pattern = .ok milliseconds →
      (Live.age (some t)).StandsFor pattern (10 ^ 6 * milliseconds) := by
    intro pattern milliseconds hread
    obtain ⟨hliteral, hfits⟩ := ((parse_readAs pattern).1.ok milliseconds).mp hread
    exact ⟨milliseconds, hliteral, hfits, rfl⟩
  have hhour := hduration "59m 60s" 3600000 (by decide +kernel)
  have hlonger := hduration "90m" 5400000 (by decide +kernel)
  have hold : compareAge now (some t) .gt "90m" = .ok true := by
    subst t now
    decide +kernel
  refine ⟨?_, ?_, ?_⟩
  · exact (compare_thresholds.1 greatest trivial now _).lower _ _ _ hleast hbelow (by decide)
      (by subst greatest now; decide +kernel)
  · exact (compare_thresholds.1 (.age (some t)) trivial now _).lower _ _ _ hhour hlonger (by decide)
      hold
  · exact (compare_thresholds.2 t (by decide) _).older now later (by decide) (by decide) (by decide)
      hold

end FleetQuery
