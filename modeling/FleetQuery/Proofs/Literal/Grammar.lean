import FleetQuery.Literal.Reader
import FleetQuery.Proofs.Text.Run
import Mathlib.Data.List.Induction
import Mathlib.Data.List.Nodup
import Mathlib.Data.Nat.Digits.Defs

/-!
# The language of literals

A literal is a sequence of counts with units, and its value is the exact sum of the counts times the
magnitudes of their units.  The grammar says so without a bound and without the reader, which adds
up in steps and gives up as soon as a step does not fit:

    Literal   := Component Component* | Component* Count
    Component := Count Unit
    Count     := '0'..'9' ('0'..'9')*

with blanks around components.  The second form is for scales that allow a bare tail.

* `decimal`, `IsCount` : counts;
* `Scale.IsUnit` : the longest unit at the front of a text;
* `Scale.Sums`, `Scale.IsLiteral` : the literals of a scale, with their values;
* `Scale.Orderly` : what a table of units needs for its order to find the longest unit, and for no
  count to vanish;
* `Scale.ReadAs` : the literals with a value of at most `2 ^ 63 - 1` are read as that value, the
  others are too large, and no other text is read;
* `parse_readAs` : **durations and sizes are read so**.

All magnitudes are positive, so a count or a partial sum that does not fit shows that the whole sum
does not.
-/

namespace FleetQuery

/-! ### Counts -/

/-- The number that digits denote in decimal. -/
def decimal (digits : List Char) : Nat :=
  Nat.ofDigits 10 (digits.reverse.map fun d => d.toNat - '0'.toNat)

/-- One or more ASCII digits. -/
def IsCount (digits : List Char) : Prop := digits ≠ [] ∧ ∀ d ∈ digits, isDigit d = true

theorem digitsValue_eq_decimal (digits : List Char) : digitsValue digits = decimal digits := by
  unfold digitsValue decimal
  induction digits using List.reverseRecOn with
  | nil => rfl
  | append_singleton ds d ih =>
    rw [List.foldl_append, ih]
    simp [Nat.ofDigits_cons, Nat.add_comm]

theorem isBlank_eq_false_of_isDigit {c : Char} (h : isDigit c = true) : isBlank c = false := by
  by_contra hb
  simp only [isBlank, Bool.not_eq_false, Bool.or_eq_true, beq_iff_eq] at hb
  rcases hb with ((rfl | rfl) | rfl) | rfl <;> exact absurd h (by decide)

theorem IsCount.skipBlanks_append {digits : List Char} (h : IsCount digits) (rest : List Char) :
    skipBlanks (digits ++ rest) = digits ++ rest := by
  obtain ⟨d, ds, rfl⟩ := List.exists_cons_of_ne_nil h.1
  exact skipBlanks_cons (isBlank_eq_false_of_isDigit (h.2 d List.mem_cons_self))

namespace Scale

variable {scale : Scale} {s rest after digits name w : List Char} {a m n total total' : Nat}

/-! ### The grammar -/

/-- `name` is the longest unit at the front of `name ++ rest`, and its magnitude is `m`. -/
def IsUnit (scale : Scale) (name : List Char) (m : Nat) (rest : List Char) : Prop :=
  (String.ofList name, m) ∈ scale.units ∧
    ∀ u ∈ scale.units, u.1.toList <+: name ++ rest → u.1.toList.length ≤ name.length

/-- The text is a sequence of components without blanks before it, and `n` is their sum. -/
inductive Sums (scale : Scale) : List Char → Nat → Prop
  /-- No component. -/
  | nil : Sums scale [] 0
  /-- A count without unit at the end of the text. -/
  | bareTail {digits : List Char} {m : Nat} : IsCount digits → scale.bareTail? = some m →
      Sums scale digits (decimal digits * m)
  /-- A count and its unit, blanks, and further components. -/
  | component {digits name w s : List Char} {m n : Nat} : IsCount digits →
      scale.IsUnit name m (w ++ s) → (∀ c ∈ w, isBlank c = true) → Sums scale s n →
      Sums scale (digits ++ (name ++ (w ++ s))) (decimal digits * m + n)

/-- The text is one or more components with blanks before them, and `n` is their sum. -/
def IsLiteral (scale : Scale) (text : List Char) (n : Nat) : Prop :=
  ∃ s, Padded text s ∧ s ≠ [] ∧ scale.Sums s n

/-! ### Units -/

/-- The units are listed so that the first one that fits is the longest one; none of them begins
with a digit, and all magnitudes are positive. -/
structure Orderly (scale : Scale) : Prop where
  /-- No unit is the start of a later one. -/
  pairwise : scale.units.Pairwise fun u v => ¬ u.1.toList <+: v.1.toList
  /-- A unit has a first character, which is no digit. -/
  letter : ∀ u ∈ scale.units, u.1.toList.head?.map isDigit = some false
  /-- The magnitude of a unit is positive. -/
  pos : ∀ u ∈ scale.units, 0 < u.2
  /-- So is the magnitude of a bare tail. -/
  bareTail_pos : ∀ m ∈ scale.bareTail?, 0 < m

theorem duration_orderly : duration.Orderly := by
  constructor <;> decide

theorem size_orderly : size.Orderly := by
  constructor <;> decide

theorem Orderly.magnitude_unique (h : scale.Orderly) {unit : String} {m' : Nat}
    (hm : (unit, m) ∈ scale.units) (hm' : (unit, m') ∈ scale.units) : m = m' := by
  have hnodup : (scale.units.map Prod.fst).Nodup := by
    refine List.pairwise_map.2 (h.pairwise.imp fun huv heq => huv ?_)
    exact heq ▸ List.prefix_refl _
  exact congrArg Prod.snd (List.inj_on_of_nodup_map hnodup hm hm' rfl)

theorem Orderly.isUnit_of_unit? (h : scale.Orderly) (hs : s ≠ [])
    (hu : scale.unit? s = some (m, rest)) :
    ∃ name, s = name ++ rest ∧ scale.IsUnit name m rest := by
  have hempty : s.isEmpty = false := by simpa using hs
  rw [unit?, hempty] at hu
  obtain ⟨before, ⟨unit, magnitude⟩, behind, hunits, hunit, hbefore⟩ :=
    List.findSome?_eq_some_iff.1 hu
  obtain ⟨r, hr, heq⟩ := Option.map_eq_some_iff.1 hunit
  obtain ⟨rfl, rfl⟩ := Prod.mk.inj heq
  have hsplit := isPrefixOf?_eq_some_iff.1 hr
  refine ⟨unit.toList, hsplit, by simp [hunits], fun v hv hprefix => ?_⟩
  rw [← hsplit] at hprefix
  obtain ⟨t, ht⟩ := hprefix
  have hpairwise := h.pairwise
  rw [hunits, List.pairwise_append, List.pairwise_cons] at hpairwise
  rw [hunits, List.mem_append, List.mem_cons] at hv
  rcases hv with hv | rfl | hv
  · -- the units listed before are no start of the text
    have hnone := hbefore v hv
    rw [Option.map_eq_none_iff] at hnone
    rw [isPrefixOf?_eq_some_iff.2 ht.symm] at hnone
    cases hnone
  · exact le_rfl
  · -- the units listed behind do not go on from this one
    by_contra hlt
    have hle : unit.toList.length ≤ v.1.toList.length := by omega
    exact hpairwise.2.1.1 v hv (List.prefix_of_prefix_length_le ⟨r, hsplit.symm⟩ ⟨t, ht⟩ hle)

theorem Orderly.unit?_eq_some_iff (h : scale.Orderly) (hs : s ≠ []) :
    scale.unit? s = some (m, rest) ↔ ∃ name, s = name ++ rest ∧ scale.IsUnit name m rest := by
  refine ⟨h.isUnit_of_unit? hs, ?_⟩
  rintro ⟨name, rfl, hunit⟩
  cases hu : scale.unit? (name ++ rest) with
  | none =>
    have hempty : (name ++ rest).isEmpty = false := by simpa using hs
    rw [unit?, hempty] at hu
    have hnone := List.findSome?_eq_none_iff.1 hu _ hunit.1
    rw [Option.map_eq_none_iff, String.toList_ofList, isPrefixOf?_eq_some_iff.2 rfl] at hnone
    cases hnone
  | some r =>
    -- two longest units at the front of one text are the same
    obtain ⟨m', rest'⟩ := r
    obtain ⟨name', hsplit, hunit'⟩ := h.isUnit_of_unit? hs hu
    have hle := hunit.2 _ hunit'.1 (by simp [hsplit])
    have hge := hunit'.2 _ hunit.1 (by simp [← hsplit])
    rw [String.toList_ofList] at hle hge
    obtain ⟨rfl, rfl⟩ := List.append_inj hsplit (le_antisymm hge hle)
    rw [h.magnitude_unique hunit.1 hunit'.1]

theorem unit?_nil_eq_some_iff :
    scale.unit? [] = some (m, after) ↔ scale.bareTail? = some m ∧ after = [] := by
  simp only [unit?, List.isEmpty_nil, ↓reduceIte, Option.map_eq_some_iff, Prod.mk.injEq]
  constructor
  · rintro ⟨_, hm, rfl, rfl⟩
    exact ⟨hm, rfl⟩
  · rintro ⟨hm, rfl⟩
    exact ⟨m, hm, rfl, rfl⟩

/-- No unit is found where none of the table stands, unless the text ends there and a bare tail is
allowed. -/
theorem Orderly.unit?_eq_none_iff (h : scale.Orderly) :
    scale.unit? s = none ↔
      (∀ u ∈ scale.units, ¬ u.1.toList <+: s) ∧ (s = [] → scale.bareTail? = none) := by
  by_cases hs : s = []
  · subst hs
    have hnot : ∀ u ∈ scale.units, ¬ u.1.toList <+: [] := by
      intro u hu hprefix
      have hletter := h.letter u hu
      rw [List.prefix_nil.1 hprefix] at hletter
      cases hletter
    simp only [unit?, List.isEmpty_nil, if_true, Option.map_eq_none_iff, forall_const]
    exact (and_iff_right hnot).symm
  · have hempty : s.isEmpty = false := by simpa using hs
    have hprefix : ∀ u : String, u.toList.isPrefixOf? s = none ↔ ¬ u.toList <+: s := by
      intro u
      rw [Option.eq_none_iff_forall_ne_some]
      exact ⟨fun hne ⟨r, hr⟩ => hne r (isPrefixOf?_eq_some_iff.2 hr.symm),
        fun hnot r hr => hnot ⟨r, (isPrefixOf?_eq_some_iff.1 hr).symm⟩⟩
    simp only [unit?, hempty, Bool.false_eq_true, if_false, List.findSome?_eq_none_iff,
      Option.map_eq_none_iff, hprefix, hs, false_implies, and_true]

theorem Orderly.unit?_pos (h : scale.Orderly) (hu : scale.unit? s = some (m, after)) : 0 < m := by
  by_cases hs : s = []
  · subst hs
    exact h.bareTail_pos m (unit?_nil_eq_some_iff.1 hu).1
  · obtain ⟨name, -, hunit⟩ := (h.unit?_eq_some_iff hs).1 hu
    exact h.pos _ hunit.1

theorem IsUnit.exists_cons (h : scale.Orderly) (hunit : scale.IsUnit name m rest) :
    ∃ c cs, name = c :: cs ∧ isDigit c = false := by
  obtain ⟨c, hc, hdigit⟩ := Option.map_eq_some_iff.1 (h.letter _ hunit.1)
  rw [String.toList_ofList] at hc
  obtain ⟨cs, rfl⟩ := List.head?_eq_some_iff.1 hc
  exact ⟨c, cs, rfl, hdigit⟩

/-! ### One component -/

/-- The text begins with a component that amounts to `a`, and goes on with `after`. -/
def Begins (scale : Scale) (s : List Char) (a : Nat) (after : List Char) : Prop :=
  ∃ digits rest m, s = digits ++ rest ∧ IsCount digits ∧ LongestRun isDigit digits rest ∧
    scale.unit? rest = some (m, after) ∧ a = decimal digits * m

theorem Begins.unique {a' : Nat} {after' : List Char} (h : scale.Begins s a after)
    (h' : scale.Begins s a' after') : a' = a ∧ after' = after := by
  obtain ⟨digits, rest, m, rfl, -, hrun, hu, rfl⟩ := h
  obtain ⟨digits', rest', m', hs, -, hrun', hu', rfl⟩ := h'
  have hdigits : digits' = digits := by rw [← hrun'.takeWhile_eq, ← hs, hrun.takeWhile_eq]
  have hrest : rest' = rest := by rw [← hrun'.dropWhile_eq, ← hs, hrun.dropWhile_eq]
  subst hdigits hrest
  obtain ⟨rfl, rfl⟩ := Prod.mk.inj (Option.some.inj (hu.symm.trans hu'))
  exact ⟨rfl, rfl⟩

theorem begins_component (h : scale.Orderly) (hcount : IsCount digits)
    (hunit : scale.IsUnit name m rest) :
    scale.Begins (digits ++ (name ++ rest)) (decimal digits * m) rest := by
  obtain ⟨c, cs, rfl, hc⟩ := hunit.exists_cons h
  refine ⟨digits, c :: cs ++ rest, m, rfl, hcount, ⟨hcount.2, ?_⟩, ?_, rfl⟩
  · rintro _ ⟨⟩
    exact hc
  · exact (h.unit?_eq_some_iff (by simp)).2 ⟨c :: cs, rfl, hunit⟩

theorem begins_bareTail (hcount : IsCount digits) (hm : scale.bareTail? = some m) :
    scale.Begins digits (decimal digits * m) [] :=
  ⟨digits, [], m, by simp, hcount, ⟨hcount.2, by simp⟩, unit?_nil_eq_some_iff.2 ⟨hm, rfl⟩, rfl⟩

theorem component_append (hcount : IsCount digits) (hrun : LongestRun isDigit digits rest)
    (total : Nat) :
    scale.component total (digits ++ rest) =
      if maxInteger < decimal digits then .error (.tooLarge, digits ++ rest)
      else match scale.unit? rest with
        | none => .error (.missingUnit, rest)
        | some (m, after) =>
          if maxInteger < total + decimal digits * m then .error (.tooLarge, digits ++ rest)
          else .ok (total + decimal digits * m, after) := by
  have hempty : digits.isEmpty = false := by simpa using hcount.1
  cases hunit : scale.unit? rest <;>
    simp only [component, hrun.takeWhile_eq, hrun.dropWhile_eq, hempty, digitsValue_eq_decimal,
      hunit, Bool.false_eq_true, if_false]

/-- A component is added if the new sum fits; a count that does not fit is no exception. -/
theorem Begins.component_eq (h : scale.Orderly) (hs : scale.Begins s a after) (total : Nat) :
    scale.component total s =
      if maxInteger < total + a then .error (.tooLarge, s) else .ok (total + a, after) := by
  obtain ⟨digits, rest, m, rfl, hcount, hrun, hu, rfl⟩ := hs
  have hle : decimal digits ≤ decimal digits * m := Nat.le_mul_of_pos_right _ (h.unit?_pos hu)
  rw [component_append hcount hrun, hu]
  by_cases hlarge : maxInteger < decimal digits
  · rw [if_pos hlarge, if_pos (by omega)]
  · rw [if_neg hlarge]

theorem begins_of_component (h : scale.component total s = .ok (total', after)) :
    ∃ a, scale.Begins s a after ∧ total' = total + a ∧ total' ≤ maxInteger := by
  have hrun := longestRun_takeWhile isDigit s
  simp only [component] at h
  split_ifs at h with hempty hlarge
  split at h
  · cases h
  · rename_i m rest hu
    split_ifs at h with hsum
    obtain ⟨rfl, rfl⟩ := Prod.mk.inj (Except.ok.inj h)
    have hcount : IsCount (s.takeWhile isDigit) := ⟨by simpa using hempty, hrun.1⟩
    refine ⟨_, ⟨_, _, m, List.takeWhile_append_dropWhile.symm, hcount, hrun, hu, rfl⟩, ?_, ?_⟩
    · rw [digitsValue_eq_decimal]
    · omega

theorem Begins.ne_nil (h : scale.Begins s a after) : s ≠ [] := by
  obtain ⟨digits, rest, m, rfl, hcount, -⟩ := h
  exact fun hnil => hcount.1 (List.append_eq_nil_iff.1 hnil).1

/-! ### Sums -/

theorem Sums.skipBlanks_eq (h : scale.Sums s n) : skipBlanks s = s := by
  cases h with
  | nil => rfl
  | bareTail hcount _ => simpa using hcount.skipBlanks_append []
  | component hcount _ _ _ => exact hcount.skipBlanks_append _

theorem sums_nil_iff : scale.Sums [] n ↔ n = 0 := by
  constructor
  · intro h
    generalize hs : ([] : List Char) = s at h
    cases h with
    | nil => rfl
    | bareTail hcount _ => exact absurd hs.symm hcount.1
    | component hcount _ _ _ => exact absurd (List.append_eq_nil_iff.1 hs.symm).1 hcount.1
  · rintro rfl
    exact .nil

theorem Orderly.sums_iff (h : scale.Orderly) (hs : s ≠ []) :
    scale.Sums s n ↔ ∃ a after n', scale.Begins s a after ∧ scale.Sums (skipBlanks after) n' ∧
      n = a + n' := by
  constructor
  · intro hsum
    cases hsum with
    | nil => exact absurd rfl hs
    | bareTail hcount hm => exact ⟨_, [], 0, begins_bareTail hcount hm, .nil, rfl⟩
    | component hcount hunit hw hsum =>
      refine ⟨_, _, _, begins_component h hcount hunit, ?_, rfl⟩
      rwa [skipBlanks_append hw, hsum.skipBlanks_eq]
  · rintro ⟨a, after, n', ⟨digits, rest, m, rfl, hcount, -, hu, rfl⟩, hsum, rfl⟩
    by_cases hrest : rest = []
    · subst hrest
      obtain ⟨hm, rfl⟩ := unit?_nil_eq_some_iff.1 hu
      obtain rfl := sums_nil_iff.1 hsum
      simpa using Sums.bareTail hcount hm
    · obtain ⟨name, rfl, hunit⟩ := (h.unit?_eq_some_iff hrest).1 hu
      obtain ⟨w, hw, hafter⟩ := padded_skipBlanks after
      rw [hafter] at hunit ⊢
      exact .component hcount hunit hw hsum

/-- **A text has at most one sum**, by induction on one of them. -/
theorem Sums.unique (h : scale.Orderly) {n' : Nat} (hsum : scale.Sums s n)
    (hsum' : scale.Sums s n') : n' = n := by
  induction hsum generalizing n' with
  | nil => exact sums_nil_iff.1 hsum'
  | bareTail hcount hm =>
    have hbegins := begins_bareTail hcount hm
    obtain ⟨a, after, k, hbegins', hk, rfl⟩ := (h.sums_iff hbegins.ne_nil).1 hsum'
    obtain ⟨rfl, rfl⟩ := hbegins.unique hbegins'
    rw [sums_nil_iff.1 hk, Nat.add_zero]
  | component hcount hunit hw hsum ih =>
    have hbegins := begins_component h hcount hunit
    obtain ⟨a, after, k, hbegins', hk, rfl⟩ := (h.sums_iff hbegins.ne_nil).1 hsum'
    obtain ⟨rfl, rfl⟩ := hbegins.unique hbegins'
    rw [skipBlanks_append hw, hsum.skipBlanks_eq] at hk
    rw [ih hk]

/-! ### Adding up -/

theorem sum_nil (scale : Scale) (total : Nat) : scale.sum total [] = .ok total := by
  rw [sum]
  rfl

theorem sum_of_ne_nil (hs : s ≠ []) :
    scale.sum total s =
      scale.component total s >>= fun r => scale.sum r.1 (skipBlanks r.2) := by
  rw [sum, if_neg (by simpa using hs)]
  split
  all_goals
    rename_i heq
    rw [heq]
    rfl

theorem Begins.sum_eq (h : scale.Orderly) (hs : scale.Begins s a after) (total : Nat) :
    scale.sum total s =
      if maxInteger < total + a then .error (.tooLarge, s)
      else scale.sum (total + a) (skipBlanks after) := by
  rw [sum_of_ne_nil hs.ne_nil, hs.component_eq h]
  split_ifs <;> rfl

/-- **A sum is added up exactly, or found to be too large**, by induction on the components: a
partial sum that does not fit is exceeded by no later one. -/
theorem Sums.sum_eq (h : scale.Orderly) (hsum : scale.Sums s n) (htotal : total ≤ maxInteger) :
    (total + n ≤ maxInteger → scale.sum total s = .ok (total + n)) ∧
      (maxInteger < total + n → ∃ rest, scale.sum total s = .error (.tooLarge, rest)) := by
  induction hsum generalizing total with
  | nil => exact ⟨fun _ => sum_nil scale total, fun hlarge => absurd hlarge (by omega)⟩
  | bareTail hcount hm =>
    rw [(begins_bareTail hcount hm).sum_eq h]
    split_ifs with hlarge
    · exact ⟨fun hfit => absurd hlarge (by omega), fun _ => ⟨_, rfl⟩⟩
    · exact ⟨fun _ => sum_nil scale _, fun hlarge' => absurd hlarge' hlarge⟩
  | component hcount hunit hw hsum ih =>
    rw [(begins_component h hcount hunit).sum_eq h, skipBlanks_append hw, hsum.skipBlanks_eq,
      ← Nat.add_assoc]
    split_ifs with hlarge
    · exact ⟨fun hfit => absurd hlarge (by omega), fun _ => ⟨_, rfl⟩⟩
    · exact ih (by omega)

/-- **What is added up is a sum of the text**, by induction on the steps of the reader. -/
theorem Orderly.sums_of_sum (h : scale.Orderly) {v : Nat} (htotal : total ≤ maxInteger)
    (hv : scale.sum total s = .ok v) : ∃ n, scale.Sums s n ∧ v = total + n ∧ v ≤ maxInteger := by
  induction total, s using Scale.sum.induct scale with
  | case1 total s hempty =>
    obtain rfl : s = [] := by simpa using hempty
    obtain rfl := Except.ok.inj ((sum_nil scale total).symm.trans hv)
    exact ⟨0, .nil, rfl, htotal⟩
  | case2 total s hempty blame hblame =>
    rw [sum_of_ne_nil (by simpa using hempty), hblame] at hv
    cases hv
  | case3 total s hempty total' after hok ih =>
    have hs : s ≠ [] := by simpa using hempty
    rw [sum_of_ne_nil hs, hok] at hv
    obtain ⟨a, hbegins, rfl, hfit⟩ := begins_of_component hok
    obtain ⟨n, hsum, rfl, hle⟩ := ih hfit hv
    exact ⟨a + n, (h.sums_iff hs).2 ⟨a, after, n, hbegins, hsum, rfl⟩, by omega, hle⟩

/-! ### Literals -/

theorem isLiteral_iff : scale.IsLiteral s n ↔ skipBlanks s ≠ [] ∧ scale.Sums (skipBlanks s) n := by
  constructor
  · rintro ⟨t, hpad, hne, hsum⟩
    rw [hpad.skipBlanks_eq, hsum.skipBlanks_eq]
    exact ⟨hne, hsum⟩
  · rintro ⟨hne, hsum⟩
    exact ⟨_, padded_skipBlanks s, hne, hsum⟩

theorem IsLiteral.unique (h : scale.Orderly) {n' : Nat} (hn : scale.IsLiteral s n)
    (hn' : scale.IsLiteral s n') : n' = n :=
  (isLiteral_iff.1 hn).2.unique h (isLiteral_iff.1 hn').2

theorem read_of_blank {input : String} (h : skipBlanks input.toList = []) :
    scale.read input = .error (.before .noValue [] input) := by
  simp [read, h]

theorem read_of_not_blank {input : String} (h : skipBlanks input.toList ≠ []) :
    scale.read input =
      match scale.sum 0 (skipBlanks input.toList) with
      | .error (fault, rest) => .error (.before fault rest input)
      | .ok total => .ok total :=
  if_neg (by simpa using h)

/-- The literals whose value fits are read as their value, and nothing else is read. -/
theorem Orderly.read_eq_ok_iff (h : scale.Orderly) {input : String} {v : Nat} :
    scale.read input = .ok v ↔ scale.IsLiteral input.toList v ∧ v ≤ maxInteger := by
  rw [isLiteral_iff]
  by_cases hblank : skipBlanks input.toList = []
  · simp [read_of_blank hblank, hblank]
  rw [read_of_not_blank hblank]
  constructor
  · intro hread
    split at hread
    · cases hread
    · rename_i hsum
      cases hread
      obtain ⟨n, hn, rfl, hle⟩ := h.sums_of_sum (Nat.zero_le _) hsum
      rw [Nat.zero_add] at hle ⊢
      exact ⟨⟨hblank, hn⟩, hle⟩
  · rintro ⟨⟨-, hsums⟩, hle⟩
    have hsum := (hsums.sum_eq h (Nat.zero_le _)).1 (by omega)
    rw [hsum, Nat.zero_add]

/-- The literals whose value does not fit are too large. -/
theorem Orderly.read_tooLarge (h : scale.Orderly) {input : String} {v : Nat}
    (hv : scale.IsLiteral input.toList v) (hlarge : maxInteger < v) :
    ∃ e, scale.read input = .error e ∧ e.fault = .tooLarge := by
  obtain ⟨hblank, hsums⟩ := isLiteral_iff.1 hv
  obtain ⟨rest, hsum⟩ := (hsums.sum_eq h (Nat.zero_le _)).2 (by omega)
  exact ⟨_, by rw [read_of_not_blank hblank, hsum], rfl⟩

/-- The literals of a scale are read as their values, as far as these are signed 64-bit integers;
other literals are too large, and what is no literal is not read. -/
structure ReadAs (scale : Scale) (parse : String → Except LiteralError Nat) (input : String) :
    Prop where
  /-- What is read. -/
  ok (v : Nat) : parse input = .ok v ↔ scale.IsLiteral input.toList v ∧ v ≤ 2 ^ 63 - 1
  /-- What is too large. -/
  tooLarge (v : Nat) : scale.IsLiteral input.toList v → 2 ^ 63 - 1 < v →
    ∃ e, parse input = .error e ∧ e.fault = .tooLarge
  /-- A text is a literal with at most one value. -/
  unique (v v' : Nat) : scale.IsLiteral input.toList v → scale.IsLiteral input.toList v' → v = v'

theorem Orderly.readAs (h : scale.Orderly) (input : String) : scale.ReadAs scale.read input where
  ok _ := h.read_eq_ok_iff
  tooLarge _ := h.read_tooLarge
  unique _ _ hv hv' := hv'.unique h hv

end Scale

/-- **Durations and sizes are read exactly.**  A duration literal or a size literal is read as the
exact sum of its components if that is a signed 64-bit integer, and is too large otherwise; no other
text is read. -/
theorem parse_readAs (input : String) :
    Scale.duration.ReadAs parseDuration input ∧ Scale.size.ReadAs parseSize input :=
  ⟨Scale.duration_orderly.readAs input, Scale.size_orderly.readAs input⟩

end FleetQuery
