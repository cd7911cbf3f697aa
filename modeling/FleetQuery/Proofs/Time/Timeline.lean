import FleetQuery.Proofs.Time.Stamp

/-!
# Instants on a line

Days and instants are ordered by the calendar: by year, month and day of the month, and then by the
second of the day and the nanoseconds.  Outside leap seconds this is the order of numbers:

* `Date.number_next?` : the number of the next day is one greater, over months and years;
* `Date.number_lt_iff` : days are ordered by their numbers;
* `Instant.ticks` : the nanoseconds from the beginning of year 1 to an instant;
* `Instant.ticks_lt_iff`, `Instant.ticks_inj` : **instants that are no leap seconds are ordered and
  told apart by their nanoseconds**;
* `Instant.since_eq` : **the time between two of them is the difference**, to the nanosecond;
* `Instant.abs_since_le` : even from the first instant of the calendar to the last one, it is far
  within `2 ^ 63 - 1` milliseconds.

Leap seconds are left out, since they do not tell instants apart: half a second into the leap second
at the end of a day counts as many nanoseconds as half a second into the next day.
-/

namespace FleetQuery

/-! ### Days -/

namespace Date

variable {d e : Date} {y : Int} {m m' : Nat}

/-- The order of the calendar. -/
instance : LT Date where
  lt d e := d.year < e.year ∨
    d.year = e.year ∧ (d.month < e.month ∨ d.month = e.month ∧ d.day < e.day)

theorem lt_iff : d < e ↔ d.year < e.year ∨
    d.year = e.year ∧ (d.month < e.month ∨ d.month = e.month ∧ d.day < e.day) := Iff.rfl

instance : Decidable (d < e) := decidable_of_iff _ lt_iff.symm

theorem lt_trichotomy (d e : Date) : d < e ∨ d = e ∨ e < d := by
  obtain ⟨y, m, n, hd⟩ := d
  obtain ⟨y', m', n', he⟩ := e
  simp only [lt_iff, mk.injEq]
  omega

theorem isDate_iff {n : Nat} : isDate y m n = true ↔
    minYear ≤ y ∧ y ≤ maxYear ∧ 1 ≤ m ∧ m ≤ 12 ∧ 1 ≤ n ∧ n ≤ daysInMonth y m := by
  simp only [isDate, Bool.and_eq_true, decide_eq_true_eq, and_assoc]

/-- The number of the first day of a year. -/
def yearStart (y : Int) : Int := 365 * (y - 1) + (y - 1) / 4 - (y - 1) / 100 + (y - 1) / 400

theorem number_eq (d : Date) :
    d.number = yearStart d.year + daysInMonths d.year (d.month - 1) + d.day - 1 := rfl

theorem daysInMonth_pos (y : Int) (m : Nat) : 1 ≤ daysInMonth y m := by
  rw [daysInMonth]
  split_ifs <;> decide

theorem daysInMonths_of_pos (h : 1 ≤ m) :
    daysInMonths y m = daysInMonths y (m - 1) + daysInMonth y m := by
  obtain ⟨k, rfl⟩ := Nat.exists_eq_add_of_le' h
  rfl

theorem daysInMonths_mono (h : m ≤ m') : daysInMonths y m ≤ daysInMonths y m' := by
  induction h with
  | refl => exact le_rfl
  | step _ ih => exact ih.trans (Nat.le_add_right _ _)

theorem daysInMonths_twelve (y : Int) :
    daysInMonths y 12 = if isLeapYear y then 366 else 365 := by
  simp only [daysInMonths, daysInMonth]
  cases isLeapYear y <;> rfl

theorem yearStart_succ (y : Int) : yearStart (y + 1) = yearStart y + daysInMonths y 12 := by
  have hleap : isLeapYear y = true ↔ y % 4 = 0 ∧ (y % 100 ≠ 0 ∨ y % 400 = 0) := by
    simp [isLeapYear]
  rw [daysInMonths_twelve, yearStart, yearStart]
  split_ifs with h
  · rw [hleap] at h
    omega
  · rw [hleap] at h
    omega

theorem yearStart_mono {y y' : Int} (h : y ≤ y') : yearStart y ≤ yearStart y' := by
  rw [yearStart, yearStart]
  omega

theorem number_bounds (d : Date) :
    yearStart d.year + daysInMonths d.year (d.month - 1) ≤ d.number ∧
      d.number < yearStart d.year + daysInMonths d.year d.month := by
  obtain ⟨-, -, hmonth, -, hday, hlast⟩ := isDate_iff.mp d.valid
  rw [number_eq, daysInMonths_of_pos hmonth]
  omega

theorem number_bounds_year (d : Date) :
    yearStart d.year ≤ d.number ∧ d.number < yearStart (d.year + 1) := by
  obtain ⟨-, -, -, hmonth, -, -⟩ := isDate_iff.mp d.valid
  obtain ⟨hlower, hupper⟩ := d.number_bounds
  have hmono := daysInMonths_mono (y := d.year) hmonth
  rw [yearStart_succ]
  omega

theorem number_lt_of_lt (h : d < e) : d.number < e.number := by
  obtain hyear | ⟨hyear, hmonth | ⟨hmonth, hday⟩⟩ := h
  · have hmono := yearStart_mono (Int.add_one_le_iff.mpr hyear)
    have hd := d.number_bounds_year.2
    have he := e.number_bounds_year.1
    omega
  · have hmono := daysInMonths_mono (y := d.year) (Nat.le_sub_one_of_lt hmonth)
    have hd := d.number_bounds.2
    have he := e.number_bounds.1
    rw [← hyear] at he
    omega
  · rw [number_eq, number_eq, hyear, hmonth]
    omega

/-- **Days are ordered by their numbers.** -/
theorem number_lt_iff : d.number < e.number ↔ d < e := by
  refine ⟨fun h => ?_, number_lt_of_lt⟩
  obtain hlt | rfl | hgt := lt_trichotomy d e
  · exact hlt
  · exact absurd h (lt_irrefl _)
  · exact absurd h (number_lt_of_lt hgt).asymm

theorem number_inj : d.number = e.number ↔ d = e := by
  refine ⟨fun h => ?_, congrArg number⟩
  obtain hlt | heq | hgt := lt_trichotomy d e
  · exact absurd h (number_lt_of_lt hlt).ne
  · exact heq
  · exact absurd h (number_lt_of_lt hgt).ne'

theorem of?_eq_some_iff {n : Nat} :
    of? y m n = some e ↔ e.year = y ∧ e.month = m ∧ e.day = n := by
  obtain ⟨y', m', n', he⟩ := e
  rw [of?]
  split_ifs with h
  · simp only [Option.some.injEq, mk.injEq, eq_comm]
  · simp only [false_iff]
    rintro ⟨rfl, rfl, rfl⟩
    exact h he

theorem of?_eq_none_iff {n : Nat} : of? y m n = none ↔ ¬ isDate y m n = true := by
  rw [of?]
  split_ifs with h <;> simp [h]

/-- **The number of the next day is one greater**, by whether the day is the last one of its month
or of its year. -/
theorem number_next? (h : d.next? = some e) : e.number = d.number + 1 := by
  obtain ⟨hmin, hmax, hmonth, hmonth', hday, hday'⟩ := isDate_iff.mp d.valid
  have hmonths := daysInMonths_of_pos (y := d.year) hmonth
  rw [next?, Option.orElse_eq_some] at h
  rw [number_eq, number_eq]
  obtain h | ⟨hnone, h⟩ := h
  · obtain ⟨hy, hm, hn⟩ := of?_eq_some_iff.mp h
    rw [hy, hm, hn]
    omega
  · have hlast : d.day = daysInMonth d.year d.month := by
      rw [of?_eq_none_iff, isDate_iff] at hnone
      omega
    rw [Option.orElse_eq_some] at h
    obtain h | ⟨hnone, h⟩ := h
    · obtain ⟨hy, hm, hn⟩ := of?_eq_some_iff.mp h
      rw [hy, hm, hn, Nat.add_sub_cancel]
      omega
    · have htwelve : d.month = 12 := by
        have hpos : 1 ≤ daysInMonth d.year (d.month + 1) := daysInMonth_pos ..
        rw [of?_eq_none_iff, isDate_iff] at hnone
        omega
      have hyear := yearStart_succ d.year
      have hnew : daysInMonths (d.year + 1) (1 - 1) = 0 := rfl
      obtain ⟨hy, hm, hn⟩ := of?_eq_some_iff.mp h
      rw [htwelve] at hmonths hlast ⊢
      rw [hy, hm, hn, hyear, hnew, hmonths]
      omega

/-- The calendar has less than `2 * 10 ^ 8` days. -/
theorem abs_number_lt (d : Date) : |d.number| < 10 ^ 8 := by
  obtain ⟨hmin, hmax, -⟩ := isDate_iff.mp d.valid
  obtain ⟨hlower, hupper⟩ := d.number_bounds_year
  have hfirst := yearStart_mono hmin
  have hlast := yearStart_mono (Int.add_le_add_right hmax 1)
  have hfirst' : yearStart minYear = -95746130 := by decide
  have hlast' : yearStart (maxYear + 1) = 95745399 := by decide
  rw [abs_lt]
  omega

end Date

/-! ### Instants -/

namespace Instant

variable {t u now next : Instant}

/-- The order of the calendar, and within a day that of the seconds and nanoseconds. -/
instance : LT Instant where
  lt t u := t.date < u.date ∨
    t.date = u.date ∧ (t.second < u.second ∨ t.second = u.second ∧ t.nanos < u.nanos)

instance : LE Instant where
  le t u := t = u ∨ t < u

theorem lt_iff : t < u ↔ t.date < u.date ∨
    t.date = u.date ∧ (t.second < u.second ∨ t.second = u.second ∧ t.nanos < u.nanos) := Iff.rfl

theorem le_iff : t ≤ u ↔ t = u ∨ t < u := Iff.rfl

instance : Decidable (t < u) := decidable_of_iff _ lt_iff.symm

instance : Decidable (t ≤ u) := decidable_of_iff _ le_iff.symm

/-- The nanoseconds from the beginning of year 1 to the instant. -/
def ticks (t : Instant) : Int :=
  (t.date.number * secondsPerDay + t.second) * nanosPerSecond + t.nanos

theorem nanos_lt (h : t.isLeap = false) : t.nanos < 1000000000 := by
  rw [isLeap, decide_eq_false_iff_not] at h
  exact Nat.lt_of_not_le h

/-- **The time between two instants is the difference of their nanoseconds.** -/
theorem since_eq (ht : t.isLeap = false) (hu : u.isLeap = false) :
    u.since t = u.ticks - t.ticks := by
  have hnone : leapBetween u t = 0 := by
    simp [leapBetween, ht, hu]
  rw [since, hnone, ticks, ticks]
  simp only [secondsPerDay, nanosPerSecond]
  omega

/-- **Instants are ordered by their nanoseconds.** -/
theorem ticks_lt_iff (ht : t.isLeap = false) (hu : u.isLeap = false) :
    t.ticks < u.ticks ↔ t < u := by
  have hts := t.bounds.1
  have hus := u.bounds.1
  have htn := nanos_lt ht
  have hun := nanos_lt hu
  rw [lt_iff, ← Date.number_lt_iff, ← Date.number_inj, ticks, ticks]
  simp only [secondsPerDay, nanosPerSecond]
  omega

theorem ticks_inj (ht : t.isLeap = false) (hu : u.isLeap = false) (h : t.ticks = u.ticks) :
    t = u := by
  have hts := t.bounds.1
  have hus := u.bounds.1
  have htn := nanos_lt ht
  have hun := nanos_lt hu
  rw [ticks, ticks] at h
  simp only [secondsPerDay, nanosPerSecond] at h
  have hdate : t.date = u.date := Date.number_inj.mp (by omega)
  have hnumber : t.date.number = u.date.number := congrArg Date.number hdate
  have hsecond : t.second = u.second := by omega
  have hnanos : t.nanos = u.nanos := by omega
  cases t
  cases u
  simp only [mk.injEq]
  exact ⟨hdate, hsecond, hnanos⟩

/-- Time passes. -/
theorem since_mono (ht : t.isLeap = false) (hu : u.isLeap = false) (hnow : now.isLeap = false)
    (h : u ≤ now) : u.since t ≤ now.since t := by
  rw [since_eq ht hu, since_eq ht hnow]
  obtain rfl | hlt := h
  · exact le_rfl
  · have hticks := (ticks_lt_iff hu hnow).mpr hlt
    omega

/-- A day later by the calendar, it is a day longer ago. -/
theorem since_next? (hdate : now.date.next? = some next.date) (hsecond : next.second = now.second)
    (hnanos : next.nanos = now.nanos) :
    next.since t = now.since t + 86400 * 10 ^ 9 := by
  have hnumber := Date.number_next? hdate
  have hleap : leapBetween next t = leapBetween now t := by
    unfold leapBetween isLeap
    rw [hsecond, hnanos]
  rw [since, since, hleap, hsecond, hnanos, hnumber]
  simp only [secondsPerDay, nanosPerSecond]
  omega

/-- **No time between two instants is too long**: milliseconds count it with 64 bits, whatever the
instants. -/
theorem abs_since_le (t now : Instant) : |now.since t| ≤ 10 ^ 6 * (2 ^ 63 - 1) := by
  have ht := abs_lt.mp t.date.abs_number_lt
  have hnow := abs_lt.mp now.date.abs_number_lt
  obtain ⟨hts, htn⟩ := t.bounds
  obtain ⟨hns, hnn⟩ := now.bounds
  have hleap : -1 ≤ leapBetween now t ∧ leapBetween now t ≤ 1 := by
    rw [leapBetween]
    split_ifs <;> decide
  rw [abs_le, since]
  simp only [secondsPerDay, nanosPerSecond]
  omega

end Instant

end FleetQuery
