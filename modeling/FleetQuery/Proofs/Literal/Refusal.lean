import FleetQuery.Proofs.Literal.Grammar
import FleetQuery.Proofs.Outcome
import FleetQuery.Proofs.Text.Located

/-!
# Why a literal is refused

A refused literal is read from left to right up to the first component that cannot be completed.
That component alone decides the fault and its place, however long the text goes on behind it:

* `Scale.Leads` : complete components at the front of a text, and their sum;
* `Scale.Incomplete` : the component at the front of a text cannot be completed on top of a sum: a
  number is missing, the count is too large, a unit is missing, or the new sum is too large, with
  the first that applies of these;
* `Scale.Refused` : the texts that are refused, each with its fault and the place of the fault;
* `parse_eq_error_iff` : **durations and sizes are refused for these faults at these places, and for
  no others.**

`Scale.Leads` looks ahead for units as the grammar of literals does, so `ms` is never taken for a
minute and the start of something else.
-/

namespace FleetQuery

namespace Scale

variable {scale : Scale} {s rest place after digits name : List Char} {m n total : Nat}
  {fault : LiteralFault}

/-! ### Definitions -/

/-- The text begins with complete components whose sum is `n`, and goes on with `rest`. -/
inductive Leads (scale : Scale) : List Char → Nat → List Char → Prop
  /-- No component. -/
  | done (rest : List Char) : Leads scale rest 0 rest
  /-- A count and its unit, blanks, and further components. -/
  | component {digits name w s rest : List Char} {m n : Nat} : IsCount digits →
      scale.IsUnit name m (w ++ s) → (∀ c ∈ w, isBlank c = true) → Leads scale s n rest →
      Leads scale (digits ++ (name ++ (w ++ s))) (decimal digits * m + n) rest

/-- On top of the sum `total`, the component at the front of a text cannot be completed; the fault
is found at the place where the second text begins. -/
inductive Incomplete (scale : Scale) (total : Nat) :
    List Char → LiteralFault → List Char → Prop
  /-- The component does not begin with a digit. -/
  | missingNumber {c : Char} {s : List Char} : isBlank c = false → isDigit c = false →
      Incomplete scale total (c :: s) .missingNumber (c :: s)
  /-- The count does not fit, whatever follows it. -/
  | largeCount {digits rest : List Char} : IsCount digits → LongestRun isDigit digits rest →
      2 ^ 63 - 1 < decimal digits →
      Incomplete scale total (digits ++ rest) .tooLarge (digits ++ rest)
  /-- The count fits, but no unit of the table follows it, and it does not end a text whose scale
  allows a bare tail. -/
  | missingUnit {digits rest : List Char} : IsCount digits → LongestRun isDigit digits rest →
      decimal digits ≤ 2 ^ 63 - 1 → (∀ u ∈ scale.units, ¬ u.1.toList <+: rest) →
      (rest = [] → scale.bareTail? = none) →
      Incomplete scale total (digits ++ rest) .missingUnit rest
  /-- The count fits and has a unit, but the new sum does not fit. -/
  | largeSum {digits name after : List Char} {m : Nat} : IsCount digits →
      decimal digits ≤ 2 ^ 63 - 1 → scale.IsUnit name m after →
      2 ^ 63 - 1 < total + decimal digits * m →
      Incomplete scale total (digits ++ (name ++ after)) .tooLarge (digits ++ (name ++ after))
  /-- The count fits and is a bare tail, but the new sum does not fit. -/
  | largeTail {digits : List Char} {m : Nat} : IsCount digits → decimal digits ≤ 2 ^ 63 - 1 →
      scale.bareTail? = some m → 2 ^ 63 - 1 < total + decimal digits * m →
      Incomplete scale total digits .tooLarge digits

/-- The text is refused, with a fault and its place. -/
inductive Refused (scale : Scale) (input : String) : LiteralError → Prop
  /-- There are only blanks: there is no value, up to the end of the text. -/
  | noValue : (∀ c ∈ input.toList, isBlank c = true) →
      Refused scale input ⟨.noValue, utf8Length input.toList, input⟩
  /-- Behind blanks and components whose sum fits, a component cannot be completed. -/
  | incomplete {s rest place before : List Char} {n : Nat} {fault : LiteralFault} :
      Padded input.toList s → scale.Leads s n rest → n ≤ 2 ^ 63 - 1 →
      scale.Incomplete n rest fault place → input.toList = before ++ place →
      Refused scale input ⟨fault, utf8Length before, input⟩

/-! ### The component that cannot be completed -/

theorem Incomplete.skipBlanks_eq (h : scale.Incomplete total s fault place) :
    s ≠ [] ∧ skipBlanks s = s := by
  have hcount : ∀ {digits : List Char}, IsCount digits → ∀ rest : List Char,
      digits ++ rest ≠ [] ∧ skipBlanks (digits ++ rest) = digits ++ rest :=
    fun h rest => ⟨fun hnil => h.1 (List.append_eq_nil_iff.1 hnil).1, h.skipBlanks_append rest⟩
  cases h with
  | missingNumber hblank => exact ⟨List.cons_ne_nil _ _, skipBlanks_cons hblank⟩
  | largeCount h | missingUnit h | largeSum h => exact hcount h _
  | largeTail h => simpa using hcount h []

theorem Incomplete.suffix (h : scale.Incomplete total s fault place) : place <:+ s := by
  cases h with
  | missingNumber | largeCount | largeSum | largeTail => exact List.suffix_refl _
  | missingUnit => exact List.suffix_append _ _

theorem Incomplete.component_eq (h : scale.Orderly) (hs : scale.Incomplete total s fault place) :
    scale.component total s = .error (fault, place) := by
  cases hs with
  | missingNumber _ hdigit => simp [component, hdigit]
  | largeCount hcount hrun hlarge =>
    rw [component_append hcount hrun]
    exact if_pos hlarge
  | missingUnit hcount hrun hfits hunits htail =>
    rw [component_append hcount hrun, h.unit?_eq_none_iff.2 ⟨hunits, htail⟩]
    exact if_neg (Nat.not_lt.2 hfits)
  | largeSum hcount _ hunit hlarge =>
    rw [(begins_component h hcount hunit).component_eq h]
    exact if_pos hlarge
  | largeTail hcount _ htail hlarge =>
    rw [(begins_bareTail hcount htail).component_eq h]
    exact if_pos hlarge

theorem Orderly.incomplete_of_component (h : scale.Orderly) (hs : s ≠ [])
    (hskip : skipBlanks s = s) (herror : scale.component total s = .error (fault, place)) :
    scale.Incomplete total s fault place := by
  have hrun := longestRun_takeWhile isDigit s
  have hsplit : s = s.takeWhile isDigit ++ s.dropWhile isDigit :=
    List.takeWhile_append_dropWhile.symm
  generalize s.takeWhile isDigit = digits, s.dropWhile isDigit = rest at hrun hsplit
  by_cases hnil : digits = []
  · obtain ⟨c, t, rfl⟩ := List.exists_cons_of_ne_nil hs
    obtain rfl : rest = c :: t := by simpa [hnil] using hsplit.symm
    have hdigit : isDigit c = false := hrun.2 c rfl
    have hblank := (longestRun_takeWhile isBlank (c :: t)).2
    rw [← skipBlanks, hskip] at hblank
    obtain ⟨rfl, rfl⟩ : .missingNumber = fault ∧ c :: t = place := by
      simpa [component, hdigit] using herror
    exact .missingNumber (hblank c rfl) hdigit
  · have hcount : IsCount digits := ⟨hnil, hrun.1⟩
    rw [hsplit, component_append hcount hrun] at herror
    subst hsplit
    split_ifs at herror with hlarge
    · obtain ⟨rfl, rfl⟩ := Prod.mk.inj (Except.error.inj herror)
      exact .largeCount hcount hrun hlarge
    have hfits : decimal digits ≤ 2 ^ 63 - 1 := Nat.not_lt.1 hlarge
    cases hunit : scale.unit? rest with
    | none =>
      rw [hunit] at herror
      obtain ⟨rfl, rfl⟩ := Prod.mk.inj (Except.error.inj herror)
      obtain ⟨hunits, htail⟩ := h.unit?_eq_none_iff.1 hunit
      exact .missingUnit hcount hrun hfits hunits htail
    | some r =>
      obtain ⟨m, after⟩ := r
      simp only [hunit] at herror
      split_ifs at herror with hsum
      obtain ⟨rfl, rfl⟩ := Prod.mk.inj (Except.error.inj herror)
      by_cases hrest : rest = []
      · subst hrest
        rw [List.append_nil]
        exact .largeTail hcount hfits (unit?_nil_eq_some_iff.1 hunit).1 hsum
      · obtain ⟨name, rfl, hname⟩ := (h.unit?_eq_some_iff hrest).1 hunit
        exact .largeSum hcount hfits hname hsum

/-! ### The components before it -/

theorem Leads.skipBlanks_eq (h : scale.Leads s n rest) (hrest : skipBlanks rest = rest) :
    skipBlanks s = s := by
  cases h with
  | done => exact hrest
  | component hcount => exact hcount.skipBlanks_append _

theorem Leads.suffix (h : scale.Leads s n rest) : rest <:+ s := by
  induction h with
  | done => exact List.suffix_refl _
  | @component digits name w s _ _ _ _ _ _ _ ih =>
    refine ih.trans ⟨digits ++ (name ++ w), ?_⟩
    simp

theorem Leads.sum_eq (h : scale.Orderly) (hs : scale.Leads s n rest)
    (hrest : skipBlanks rest = rest) (hfits : total + n ≤ maxInteger) :
    scale.sum total s = scale.sum (total + n) rest := by
  induction hs generalizing total with
  | done => rfl
  | component hcount hunit hw hs ih =>
    rw [(begins_component h hcount hunit).sum_eq h, if_neg (by omega), skipBlanks_append hw,
      hs.skipBlanks_eq hrest, ih hrest (by omega), Nat.add_assoc]

/-- **Where adding up fails, complete components stand before one that cannot be completed**, by
induction on the steps of the reader. -/
theorem Orderly.exists_leads_of_sum (h : scale.Orderly) (htotal : total ≤ maxInteger)
    (hskip : skipBlanks s = s) (herror : scale.sum total s = .error (fault, place)) :
    ∃ n rest, scale.Leads s n rest ∧ total + n ≤ maxInteger ∧
      scale.Incomplete (total + n) rest fault place := by
  induction total, s using Scale.sum.induct scale with
  | case1 total s hempty =>
    rw [sum, if_pos hempty] at herror
    cases herror
  | case2 total s hempty blame hblame =>
    have hs : s ≠ [] := by simpa using hempty
    rw [sum_of_ne_nil hs, hblame] at herror
    obtain rfl : blame = (fault, place) := Except.error.inj herror
    exact ⟨0, s, .done s, htotal, h.incomplete_of_component hs hskip hblame⟩
  | case3 total s hempty total' after hok ih =>
    have hs : s ≠ [] := by simpa using hempty
    rw [sum_of_ne_nil hs, hok] at herror
    obtain ⟨a, hbegins, rfl, hfits⟩ := begins_of_component hok
    obtain ⟨n, rest, hleads, hn, hincomplete⟩ := ih hfits (skipBlanks_skipBlanks after) herror
    obtain ⟨digits, u, m, rfl, hcount, -, hunit, rfl⟩ := hbegins
    have hu : u ≠ [] := by
      -- a bare tail leaves nothing that could fail
      rintro rfl
      obtain ⟨-, rfl⟩ := unit?_nil_eq_some_iff.1 hunit
      have hok := (sum_nil scale _).symm.trans herror
      cases hok
    obtain ⟨name, rfl, hname⟩ := (h.unit?_eq_some_iff hu).1 hunit
    obtain ⟨w, hw, hafter⟩ := padded_skipBlanks after
    rw [hafter] at hname ⊢
    rw [Nat.add_assoc] at hn hincomplete
    exact ⟨_, rest, .component hcount hname hw hleads, hn, hincomplete⟩

/-! ### Literals -/

/-- **What is refused, why, and where.** -/
theorem Orderly.read_eq_error_iff (h : scale.Orderly) {input : String} {e : LiteralError} :
    scale.read input = .error e ↔ scale.Refused input e := by
  constructor
  · intro herror
    by_cases hnil : skipBlanks input.toList = []
    · rw [read_of_blank hnil, Located.before_eq _ (List.append_nil _).symm] at herror
      obtain rfl := Except.error.inj herror
      exact .noValue (skipBlanks_eq_nil_iff.1 hnil)
    · rw [read_of_not_blank hnil] at herror
      split at herror
      · rename_i fault place hsum
        obtain ⟨n, rest, hleads, hn, hincomplete⟩ := h.exists_leads_of_sum (Nat.zero_le _)
          (skipBlanks_skipBlanks _) hsum
        rw [Nat.zero_add] at hn hincomplete
        have hpad := padded_skipBlanks input.toList
        obtain ⟨before, hbefore⟩ :=
          (hincomplete.suffix.trans hleads.suffix).trans hpad.suffix
        rw [Located.before_eq _ hbefore.symm] at herror
        obtain rfl := Except.error.inj herror
        exact .incomplete hpad hleads hn hincomplete hbefore.symm
      · cases herror
  · rintro (hblanks | ⟨hpad, hleads, hn, hincomplete, hbefore⟩)
    · rw [read_of_blank (skipBlanks_eq_nil_iff.2 hblanks),
        Located.before_eq _ (List.append_nil _).symm]
    · obtain ⟨hne, hskip⟩ := hincomplete.skipBlanks_eq
      have hs := hpad.skipBlanks_eq.trans (hleads.skipBlanks_eq hskip)
      have hnil : skipBlanks input.toList ≠ [] := by
        rw [hs]
        rintro rfl
        exact hne (List.suffix_nil.1 hleads.suffix)
      have hsum := hleads.sum_eq h hskip ((Nat.zero_add _).trans_le hn)
      rw [read_of_not_blank hnil, hs, hsum, Nat.zero_add, sum_of_ne_nil hne,
        hincomplete.component_eq h]
      exact congrArg Except.error (Located.before_eq _ hbefore)

end Scale

/-- **Durations and sizes are refused at the first component that cannot be completed.**  A text is
refused exactly if it is blank, or if behind components whose sum fits there is one that cannot be
completed; and that component decides the fault and its place. -/
theorem parse_eq_error_iff (input : String) (e : LiteralError) :
    (parseDuration input = .error e ↔ Scale.duration.Refused input e) ∧
      (parseSize input = .error e ↔ Scale.size.Refused input e) :=
  ⟨Scale.duration_orderly.read_eq_error_iff, Scale.size_orderly.read_eq_error_iff⟩

end FleetQuery
