import FleetQuery.Proofs.Text.Decimal
import FleetQuery.Time.Stamp

/-!
# Time stamps that are written

What `Instant.write` writes stands for the instant: `Instant.read?_write`.  This holds for every
instant of the calendar, in years with a sign and in leap seconds too.

Every part of a stamp is followed by a character that ends it, so each reader takes exactly the part
that was written for it: a year (`year?_writeYear`), a day (`date?_write`), a fraction
(`fraction?_writeFraction`) and a time of day (`time?_write`).
-/

namespace FleetQuery

variable {s ds : List Char} {c : Char} {n : Nat}

theorem isWhiteSpace_eq_false_of_isDigit (h : isDigit c = true) : isWhiteSpace c = false := by
  simp only [isDigit, Bool.and_eq_true, decide_eq_true_eq, Char.le_def, UInt32.le_iff_toNat_le] at h
  have h₁ : 48 ≤ c.toNat := h.1
  have h₂ : c.toNat ≤ 57 := h.2
  simp only [isWhiteSpace, Bool.or_eq_false_iff, Bool.and_eq_false_iff, decide_eq_false_iff_not,
    beq_eq_false_iff_ne]
  omega

theorem trimLeft_cons (h : isWhiteSpace c = false) : trimLeft (c :: s) = c :: s := by
  simp [trimLeft, h]

theorem IsCount.trimLeft_append (h : IsCount ds) (s : List Char) :
    trimLeft (ds ++ s) = ds ++ s := by
  obtain ⟨d, ds', rfl, hd⟩ := h.exists_cons
  exact trimLeft_cons (isWhiteSpace_eq_false_of_isDigit hd)

/-! ### The calendar -/

theorem daysInMonth_le (y : Int) (m : Nat) : daysInMonth y m ≤ 31 := by
  unfold daysInMonth
  split_ifs <;> decide

theorem Date.bounds (d : Date) : d.month ≤ 12 ∧ d.day ≤ 31 := by
  have h := d.valid
  simp only [isDate, Bool.and_eq_true, decide_eq_true_eq] at h
  exact ⟨h.1.1.2, h.2.trans (daysInMonth_le d.year d.month)⟩

theorem Instant.bounds (t : Instant) :
    t.second < 86400 ∧
      (t.nanos < 1000000000 ∨ t.nanos < 2000000000 ∧ t.second % 60 = 59) := by
  have h := t.valid
  simp only [isTimeOfDay, Bool.and_eq_true, Bool.or_eq_true, decide_eq_true_eq, beq_iff_eq] at h
  exact h

namespace Stamp

/-! ### Numbers -/

theorem number?_count {most : Nat} (h : IsCount ds) (hmost : ds.length ≤ most)
    (hstop : ds.length = most ∨ ∀ d ∈ s.head?, isDigit d = false) :
    number? most (ds ++ s) = some (digitsValue ds, s) := by
  have hrun : ((ds ++ s).take most).takeWhile isDigit = ds := by
    rw [List.take_append, List.take_of_length_le hmost]
    refine LongestRun.takeWhile_eq ⟨h.2, fun d hd => ?_⟩
    rw [List.head?_take] at hd
    obtain hlength | hs := hstop
    · rw [hlength, Nat.sub_self, if_pos rfl] at hd
      cases hd
    · split_ifs at hd
      · cases hd
      · exact hs d hd
  have hne : ds.isEmpty = false := by simpa using h.1
  simp only [number?, hrun, hne, Bool.false_eq_true, if_false, List.drop_left]

theorem spacedNumber?_padded (h : n < 100) (s : List Char) :
    spacedNumber? 2 (padded 2 n ++ s) = some (n, s) := by
  have hcount := isCount_padded 2 n
  have hlength : (padded 2 n).length = 2 := length_padded (by decide) h
  rw [spacedNumber?, hcount.trimLeft_append, number?_count hcount hlength.le (.inl hlength),
    digitsValue_padded]

theorem separator?_cons (h : isWhiteSpace c = false) : separator? c (c :: s) = some s := by
  simp [separator?, trimLeft_cons h]

/-! ### Days -/

theorem year?_writeYear (y : Int) (s : List Char) :
    year? (Instant.writeYear y ++ '-' :: s) = some (y, '-' :: s) := by
  have hcount := isCount_padded 4 y.natAbs
  have hsigned : number? (padded 4 y.natAbs ++ '-' :: s).length (padded 4 y.natAbs ++ '-' :: s) =
      some (y.natAbs, '-' :: s) := by
    rw [number?_count hcount (by simp) (.inr (by simp [isDigit])), digitsValue_padded]
  rw [Instant.writeYear]
  split_ifs with hneg hgreat
  · have hy : -(y.natAbs : Int) = y := by omega
    have hminus : isWhiteSpace '-' = false := by decide
    simp only [List.cons_append, year?, trimLeft_cons hminus, hsigned, Option.map_some, hy]
  · have hy : (y.natAbs : Int) = y := by omega
    have hplus : isWhiteSpace '+' = false := by decide
    simp only [List.cons_append, year?, trimLeft_cons hplus, hsigned, Option.map_some, hy]
  · have hlength : (padded 4 y.natAbs).length = 4 := length_padded (by decide) (by omega)
    have hnumber : number? 4 (padded 4 y.natAbs ++ '-' :: s) = some (y.natAbs, '-' :: s) := by
      rw [number?_count hcount hlength.le (.inl hlength), digitsValue_padded]
    have hy : (y.natAbs : Int) = y := by omega
    rw [year?, hcount.trimLeft_append]
    split
    · rename_i heq
      exact absurd heq (hcount.append_ne_cons (by decide))
    · rename_i heq
      exact absurd heq (hcount.append_ne_cons (by decide))
    · simp only [hnumber, Option.map_some, hy]

theorem date?_write (d : Date) (s : List Char) :
    date? (Instant.writeYear d.year ++ '-' :: (padded 2 d.month ++ '-' :: (padded 2 d.day ++ s))) =
      some (d, s) := by
  obtain ⟨hmonth, hday⟩ := d.bounds
  have hhyphen : isWhiteSpace '-' = false := by decide
  simp only [date?, year?_writeYear, Option.bind_eq_bind, Option.bind_some, separator?_cons hhyphen,
    spacedNumber?_padded (show d.month < 100 by omega),
    spacedNumber?_padded (show d.day < 100 by omega), Date.of?_eq]
  rfl

/-! ### Times of day -/

theorem fraction?_padded {width n : Nat} (hwidth : 0 < width) (hn : n < 10 ^ width)
    (hle : width ≤ 9) (hs : ∀ d ∈ s.head?, isDigit d = false) :
    fraction? ('.' :: (padded width n ++ s)) = some (n * 10 ^ (9 - width), s) := by
  have hcount := isCount_padded width n
  have hrun : LongestRun isDigit (padded width n) s := ⟨hcount.2, hs⟩
  have hne : (padded width n).isEmpty = false := by simpa using hcount.1
  have hlength : (padded width n).length = width := length_padded hwidth hn
  have hfill : (padded width n ++ List.replicate 9 '0').take 9 =
      padded width n ++ List.replicate (9 - width) '0' := by
    rw [List.take_append, List.take_of_length_le (by omega), hlength, List.take_replicate,
      Nat.min_eq_left (by omega)]
  have hvalue : digitsValue (padded width n ++ List.replicate (9 - width) '0') =
      n * 10 ^ (9 - width) := by
    rw [digitsValue_eq_ofDigitChars, Nat.ofDigitChars_append, ← digitsValue_eq_ofDigitChars,
      digitsValue_padded, Nat.ofDigitChars_replicate_zero, Nat.mul_comm]
  simp only [fraction?, hrun.takeWhile_eq, hrun.dropWhile_eq, hne, Bool.false_eq_true, if_false,
    hfill, hvalue]

theorem fraction?_writeFraction (h : n < nanosPerSecond) (hs : ∀ d ∈ s.head?, isDigit d = false)
    (hpoint : s.head? ≠ some '.') :
    fraction? (Instant.writeFraction n ++ s) = some (n, s) := by
  rw [nanosPerSecond] at h
  simp only [Instant.writeFraction, beq_iff_eq]
  split_ifs with hzero hmilli hmicro
  · subst hzero
    cases s with
    | nil => rfl
    | cons d s =>
      have hd : d ≠ '.' := fun h => hpoint (h ▸ rfl)
      simp [fraction?, hd]
  · rw [List.cons_append, fraction?_padded (by decide) (by omega) (by decide) hs]
    congr 2
    omega
  · rw [List.cons_append, fraction?_padded (by decide) (by omega) (by decide) hs]
    congr 2
    omega
  · rw [List.cons_append, fraction?_padded (by decide) (by omega) (by decide) hs]
    congr 2
    omega

theorem time?_of_parts {hour minute second nanos : Nat} (hhour : hour < 24) (hminute : minute < 60)
    (hsecond : second ≤ 60) (hnanos : nanos < nanosPerSecond)
    (hs : ∀ d ∈ s.head?, isDigit d = false) (hpoint : s.head? ≠ some '.') :
    time? (padded 2 hour ++ ':' :: (padded 2 minute ++ ':' ::
        (padded 2 second ++ (Instant.writeFraction nanos ++ s)))) =
      if second = 60 then
        some ((hour * 3600 + minute * 60 + 59, nanosPerSecond + nanos), s)
      else some ((hour * 3600 + minute * 60 + second, nanos), s) := by
  have hcolon : isWhiteSpace ':' = false := by decide
  have hrange : (decide (24 ≤ hour) || decide (60 ≤ minute) || decide (61 ≤ second)) = false := by
    simp only [Bool.or_eq_false_iff, decide_eq_false_iff_not]
    omega
  simp only [time?, Option.bind_eq_bind, Option.bind_some, separator?_cons hcolon,
    spacedNumber?_padded (show hour < 100 by omega),
    spacedNumber?_padded (show minute < 100 by omega),
    spacedNumber?_padded (show second < 100 by omega), fraction?_writeFraction hnanos hs hpoint,
    hrange, Bool.false_eq_true, if_false, beq_iff_eq]

/-- A leap second is written as second 60, and read as the one after second 59. -/
theorem time?_write (t : Instant) (hs : ∀ d ∈ s.head?, isDigit d = false)
    (hpoint : s.head? ≠ some '.') :
    time? (padded 2 (t.second / 3600) ++ ':' :: (padded 2 (t.second / 60 % 60) ++ ':' ::
        (padded 2 (t.second % 60 + t.nanos / nanosPerSecond) ++
          (Instant.writeFraction (t.nanos % nanosPerSecond) ++ s)))) =
      some ((t.second, t.nanos), s) := by
  obtain ⟨hsecond, hnanos⟩ := t.bounds
  have hscale : nanosPerSecond = 1000000000 := rfl
  rw [time?_of_parts (by omega) (by omega) (by rw [hscale]; omega) (Nat.mod_lt _ (by decide)) hs
    hpoint, hscale]
  by_cases hleap : t.second % 60 + t.nanos / 1000000000 = 60
  · have hstart : t.second / 3600 * 3600 + t.second / 60 % 60 * 60 + 59 = t.second := by omega
    have hrest : 1000000000 + t.nanos % 1000000000 = t.nanos := by omega
    rw [if_pos hleap, hstart, hrest]
  · have hstart : t.second / 3600 * 3600 + t.second / 60 % 60 * 60 +
        (t.second % 60 + t.nanos / 1000000000) = t.second := by omega
    have hrest : t.nanos % 1000000000 = t.nanos := by omega
    rw [if_neg hleap, hstart, hrest]

theorem instant?_zero (t : Instant) : instant? t.date t.second t.nanos 0 = some t := by
  have hlt := t.bounds.1
  have hday : secondsPerDay = 86400 := rfl
  rw [instant?, Int.sub_zero, if_neg (by omega), if_neg (by omega), Int.toNat_natCast,
    Instant.of?_eq]

end Stamp

open Stamp in
/-- **What is written for an instant stands for it.** -/
theorem Instant.read?_write (t : Instant) : Instant.read? t.write = some t := by
  have hzone : ∀ d ∈ ['Z'].head?, isDigit d = false := by simp [isDigit]
  have hdate := date?_write t.date
  have htime := time?_write t hzone (by decide)
  have hend : (trimLeft []).isEmpty = true := rfl
  have hoffset : offset? (trimLeft ['Z']) = some (0, []) := rfl
  simp only [read?, write, List.append_assoc, List.cons_append, hdate, joint?, htime, hoffset, hend,
    Option.bind_eq_bind, Option.bind_some, if_true, instant?_zero]

end FleetQuery
