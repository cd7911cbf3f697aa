import FleetQuery.Match.Live
import FleetQuery.Proofs.Literal.Grammar

/-!
# Patterns for integers

An integer is compared with a pattern in decimal, white space at its two ends not counting:

    Pattern := White* Numeral White*
    Numeral := ('+' | '-')? '0'..'9' ('0'..'9')*

where the number of the numeral has to be a signed 64-bit integer.  Zeros in front do not count, and
the least of these integers has no numeral without a sign.

* `Trims`, `trim_eq_iff` : the text between the white space at its two ends;
* `IsNumeral`, `readInteger?_eq_some_iff` : numerals, and how they are read;
* `DenotesInteger` : the patterns that stand for an integer;
* `compareInteger_exact` : **any other pattern is refused as it was given, whatever the operator;
  the integers are compared exactly, and no operators but `=` and `>` are known.**
-/

namespace FleetQuery

variable {s t ds : List Char} {n : Int}

/-! ### White space at the two ends -/

/-- `t` is the text `s` without the white space at its two ends. -/
structure Trims (s t : List Char) : Prop where
  /-- White space, and only that, is taken off both ends. -/
  split : ∃ u v, s = u ++ (t ++ v) ∧
    (∀ c ∈ u, isWhiteSpace c = true) ∧ ∀ c ∈ v, isWhiteSpace c = true
  /-- No white space is left in front. -/
  head : ∀ c ∈ t.head?, isWhiteSpace c = false
  /-- No white space is left at the end. -/
  last : ∀ c ∈ t.getLast?, isWhiteSpace c = false

theorem trims_trim (s : List Char) : Trims s (trim s) := by
  obtain ⟨hu, hhead⟩ := longestRun_takeWhile isWhiteSpace s
  obtain ⟨hv, hlast⟩ := longestRun_takeWhile isWhiteSpace (trimLeft s).reverse
  have hs : s = s.takeWhile isWhiteSpace ++ trimLeft s := List.takeWhile_append_dropWhile.symm
  have htail : trimLeft s = trim s ++ ((trimLeft s).reverse.takeWhile isWhiteSpace).reverse := by
    rw [trim, ← List.reverse_append]
    exact List.reverse_eq_iff.mp List.takeWhile_append_dropWhile.symm
  refine ⟨⟨_, _, htail ▸ hs, hu, fun c hc => hv c (List.mem_reverse.mp hc)⟩, fun c hc => ?_, ?_⟩
  · refine hhead c ?_
    change c ∈ (trimLeft s).head?
    rw [htail, List.head?_append, Option.mem_def.mp hc]
    rfl
  · rw [trim, List.getLast?_reverse]
    exact hlast

theorem trim_eq_iff : trim s = t ↔ Trims s t := by
  constructor
  · rintro rfl
    exact trims_trim s
  · rintro ⟨⟨u, v, rfl, hu, hv⟩, hhead, hlast⟩
    by_cases ht : t = []
    · subst ht
      have hnil : trimLeft (u ++ ([] ++ v)) = [] :=
        trimLeft_eq_nil_iff.mpr (List.forall_mem_append.mpr ⟨hu, hv⟩)
      rw [trim, hnil]
      rfl
    · have hfront : LongestRun isWhiteSpace u (t ++ v) := by
        refine ⟨hu, ?_⟩
        rwa [List.head?_append_of_ne_nil _ ht]
      have hback : LongestRun isWhiteSpace v.reverse t.reverse := by
        refine ⟨fun c hc => hv c (List.mem_reverse.mp hc), ?_⟩
        rwa [List.head?_reverse]
      rw [trim, trimLeft, trimLeft, hfront.dropWhile_eq, List.reverse_append, hback.dropWhile_eq,
        List.reverse_reverse]

/-! ### Numerals -/

/-- The text is an integer in decimal: one or more digits, with or without a sign. -/
inductive IsNumeral : List Char → Int → Prop
  /-- Digits. -/
  | unsigned {ds : List Char} : IsCount ds → IsNumeral ds (decimal ds)
  /-- A plus and digits. -/
  | plus {ds : List Char} : IsCount ds → IsNumeral ('+' :: ds) (decimal ds)
  /-- A minus and digits. -/
  | minus {ds : List Char} : IsCount ds → IsNumeral ('-' :: ds) (-(decimal ds : Int))

theorem not_isCount_cons {c : Char} (hc : isDigit c = false) : ¬ IsCount (c :: ds) := by
  intro h
  rw [h.2 c List.mem_cons_self] at hc
  cases hc

theorem isNumeral_minus_iff : IsNumeral ('-' :: ds) n ↔ IsCount ds ∧ -(decimal ds : Int) = n := by
  constructor
  · rintro (hcount | _ | hcount)
    · exact absurd hcount (not_isCount_cons (by decide))
    · exact ⟨hcount, rfl⟩
  · rintro ⟨hcount, rfl⟩
    exact .minus hcount

theorem isNumeral_plus_iff : IsNumeral ('+' :: ds) n ↔ IsCount ds ∧ (decimal ds : Int) = n := by
  constructor
  · rintro (hcount | hcount | _)
    · exact absurd hcount (not_isCount_cons (by decide))
    · exact ⟨hcount, rfl⟩
  · rintro ⟨hcount, rfl⟩
    exact .plus hcount

theorem isNumeral_unsigned_iff (hminus : s.head? ≠ some '-') (hplus : s.head? ≠ some '+') :
    IsNumeral s n ↔ IsCount s ∧ (decimal s : Int) = n := by
  constructor
  · rintro (hcount | _ | _)
    · exact ⟨hcount, rfl⟩
    · exact absurd rfl hplus
    · exact absurd rfl hminus
  · rintro ⟨hcount, rfl⟩
    exact .unsigned hcount

theorem readNatural?_eq_some_iff {m : Nat} :
    readNatural? ds = some m ↔ IsCount ds ∧ decimal ds = m := by
  simp only [readNatural?, Option.ite_none_right_eq_some, Option.some.injEq, Bool.and_eq_true,
    Bool.not_eq_true', List.isEmpty_eq_false_iff, List.all_eq_true, digitsValue_eq_decimal, IsCount]

theorem signed_eq_some_iff (sign : Nat → Int) :
    ((readNatural? ds).bind fun m => if isInteger64 (sign m) then some (sign m) else none) =
        some n ↔ (IsCount ds ∧ sign (decimal ds) = n) ∧ isInteger64 n = true := by
  simp only [Option.bind_eq_some_iff, readNatural?_eq_some_iff, Option.ite_none_right_eq_some,
    Option.some.injEq]
  constructor
  · rintro ⟨m, ⟨hcount, rfl⟩, hrange, rfl⟩
    exact ⟨⟨hcount, rfl⟩, hrange⟩
  · rintro ⟨⟨hcount, rfl⟩, hrange⟩
    exact ⟨_, ⟨hcount, rfl⟩, hrange, rfl⟩

/-- **A numeral is read as its number, if that is in range**, by the sign that the text begins
with. -/
theorem readInteger?_eq_some_iff :
    readInteger? s = some n ↔ IsNumeral s n ∧ isInteger64 n = true := by
  unfold readInteger?
  split
  · rename_i ds
    rw [isNumeral_minus_iff, ← signed_eq_some_iff fun m => -(m : Int)]
    cases readNatural? ds <;> rfl
  · rename_i ds
    rw [isNumeral_plus_iff, ← signed_eq_some_iff fun m => (m : Int)]
    cases readNatural? ds <;> rfl
  · rename_i hminus hplus
    rw [isNumeral_unsigned_iff ?minus ?plus, ← signed_eq_some_iff fun m => (m : Int)]
    · cases readNatural? s <;> rfl
    case minus =>
      intro h
      obtain ⟨ds, rfl⟩ := List.head?_eq_some_iff.mp h
      exact hminus ds rfl
    case plus =>
      intro h
      obtain ⟨ds, rfl⟩ := List.head?_eq_some_iff.mp h
      exact hplus ds rfl

/-! ### Patterns -/

/-- Without the white space at its two ends, the pattern is a numeral, and its number is a signed
64-bit integer. -/
structure DenotesInteger (pattern : String) (n : Int) : Prop where
  /-- The numeral. -/
  numeral : ∃ s, Trims pattern.toList s ∧ IsNumeral s n
  /-- The number is at least the least signed 64-bit integer. -/
  lower : -2 ^ 63 ≤ n
  /-- The number is at most the greatest one. -/
  upper : n ≤ 2 ^ 63 - 1

theorem isInteger64_iff : isInteger64 n = true ↔ -2 ^ 63 ≤ n ∧ n ≤ 2 ^ 63 - 1 := by
  rw [isInteger64, Bool.and_eq_true, decide_eq_true_eq, decide_eq_true_eq, maxInteger]
  omega

theorem readInteger?_trim_eq_some_iff {pattern : String} :
    readInteger? (trim pattern.toList) = some n ↔ DenotesInteger pattern n := by
  rw [readInteger?_eq_some_iff, isInteger64_iff]
  constructor
  · rintro ⟨hnumeral, hlower, hupper⟩
    exact ⟨⟨_, trims_trim _, hnumeral⟩, hlower, hupper⟩
  · rintro ⟨⟨s, htrims, hnumeral⟩, hlower, hupper⟩
    rw [trim_eq_iff.mpr htrims]
    exact ⟨hnumeral, hlower, hupper⟩

theorem readInteger?_trim_eq_none_iff {pattern : String} :
    readInteger? (trim pattern.toList) = none ↔ ¬ ∃ n, DenotesInteger pattern n := by
  simp only [← readInteger?_trim_eq_some_iff, Option.eq_none_iff_forall_ne_some, not_exists]

/-- **Integers are compared exactly, or not at all.**  A pattern that stands for no integer is
refused as it was given, whatever the operator; with any other pattern, `=` and `>` compare the
value with the integer that it stands for, and other operators are unknown. -/
theorem compareInteger_exact (value : Int) (op : Operator) (pattern : String) :
    (∀ text, compareInteger value op pattern = .error (.comparison (.notNumeric text)) ↔
      text = pattern ∧ ¬ ∃ n, DenotesInteger pattern n) ∧
    ∀ n, DenotesInteger pattern n →
      compareInteger value op pattern =
        match op with
        | .eq => .ok (decide (value = n))
        | .gt => .ok (decide (n < value))
        | op => .error (.comparison (.unsupported .integer op)) := by
  constructor
  · intro text
    rw [compareInteger, ← readInteger?_trim_eq_none_iff]
    cases readInteger? (trim pattern.toList) with
    | none => simp [eq_comm]
    | some n => cases op <;> simp
  · intro n hn
    rw [compareInteger, readInteger?_trim_eq_some_iff.mpr hn]
    cases op <;> rfl

/-- The least integer, with white space around it and zeros in front, and the same number without
its sign. -/
theorem compareInteger_exact_least :
    DenotesInteger "\u00a0-0009223372036854775808\n" (-2 ^ 63) ∧
      compareInteger (-2 ^ 63) .eq "\u00a0-0009223372036854775808\n" = .ok true ∧
      compareInteger (-2 ^ 63) .lt "\u00a0-0009223372036854775808\n" =
        .error (.comparison (.unsupported .integer .lt)) ∧
      compareInteger (-2 ^ 63) .lt " 9223372036854775808" =
        .error (.comparison (.notNumeric " 9223372036854775808")) := by
  have hleast : DenotesInteger "\u00a0-0009223372036854775808\n" (-2 ^ 63) :=
    readInteger?_trim_eq_some_iff.mp (by decide +kernel)
  have hnone : ¬ ∃ n, DenotesInteger " 9223372036854775808" n :=
    readInteger?_trim_eq_none_iff.mp (by decide +kernel)
  refine ⟨hleast, ?_, ?_, ?_⟩
  · exact (compareInteger_exact _ .eq _).2 _ hleast
  · exact (compareInteger_exact _ .lt _).2 _ hleast
  · exact ((compareInteger_exact _ .lt _).1 _).mpr ⟨rfl, hnone⟩

end FleetQuery
