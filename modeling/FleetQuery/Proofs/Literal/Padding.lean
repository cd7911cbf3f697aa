import FleetQuery.Proofs.Literal.Order

/-!
# Blanks around literals

Blanks may stand before a literal and behind every component, so also behind the last one.  They
may not stand behind a bare tail, which ends the text: there a blank stands where the unit of the
count should begin.

* `Row.of_append_blanks` : a row without the blanks at its end is a row;
* `Row.endsInDigit_eq_false` : a row ends with a unit or with blanks;
* `Orderly.isLiteral_append_blanks` : **blanks are added behind a literal, or taken away, without a
  change of its value, unless it has a bare tail**;
* `parse_pad` : **durations are read alike with blanks around them, and so are sizes, unless blanks
  stand behind a bare tail.**
-/

namespace FleetQuery

theorem exists_of_append_blanks {s t u w : List Char} {x : Char}
    (hw : ∀ c ∈ w, isBlank c = true) (hx : isBlank x = false) (h : s ++ w = t ++ x :: u) :
    ∃ r, s = t ++ x :: r ∧ u = r ++ w := by
  have hnot : x ∉ w := by
    intro hmem
    rw [hw x hmem] at hx
    cases hx
  rcases List.append_eq_append_iff.1 h with ⟨q, rfl, rfl⟩ | ⟨q, rfl, hq⟩
  · exact absurd (by simp) hnot
  · obtain - | ⟨y, q⟩ := q
    · obtain rfl : x :: u = w := hq
      exact absurd List.mem_cons_self hnot
    · obtain ⟨rfl, rfl⟩ := List.cons.inj hq
      exact ⟨q, rfl, rfl⟩

theorem endsInDigit_append {s t : List Char} (ht : t ≠ []) :
    endsInDigit (s ++ t) = endsInDigit t := by
  rw [endsInDigit, List.getLast?_append_of_ne_nil _ ht, endsInDigit]

theorem endsInDigit_blanks {w : List Char} (hw : ∀ c ∈ w, isBlank c = true) :
    endsInDigit w = false := by
  rw [endsInDigit, Option.any_eq_false]
  intro c hc
  by_contra hdigit
  have hblank := hw c (List.mem_of_getLast? hc)
  rw [isBlank_eq_false_of_isDigit (by simpa using hdigit)] at hblank
  cases hblank

namespace Scale

variable {scale : Scale} {s w : List Char} {n : Nat} {cs : List scale.Component}

theorem Component.exists_last (h : scale.Orderly) (hl : scale.Lettered) (c : scale.Component) :
    ∃ t x, c.text = t ++ [x] ∧ isDigit x = false ∧ isBlank x = false := by
  have hne : c.unit.toList ≠ [] := by
    intro hnil
    have hletter := h.letter _ c.listed
    rw [hnil] at hletter
    cases hletter
  have hlast := List.all_eq_true.1 (hl _ c.listed) _ (List.getLast_mem hne)
  refine ⟨c.digits ++ c.unit.toList.dropLast, c.unit.toList.getLast hne, ?_, by simpa using hlast⟩
  rw [Component.text, List.append_assoc, List.dropLast_append_getLast]

theorem Row.of_append_blanks (h : scale.Orderly) (hl : scale.Lettered)
    (hw : ∀ c ∈ w, isBlank c = true) (hrow : scale.Row cs (s ++ w)) : scale.Row cs s := by
  generalize ht : s ++ w = t at hrow
  induction hrow generalizing s with
  | nil hblank =>
    subst ht
    exact .nil (List.forall_mem_append.1 hblank).1
  | @cons v t cs c hv hrow ih =>
    obtain ⟨a, x, hc, -, hx⟩ := c.exists_last h hl
    have hsplit : s ++ w = v ++ a ++ x :: t := by
      rw [ht, hc]
      simp
    obtain ⟨r, hs, rfl⟩ := exists_of_append_blanks hw hx hsplit
    have hs' : s = v ++ (c.text ++ r) := by
      rw [hs, hc]
      simp
    rw [hs']
    exact .cons c hv (ih rfl)

theorem Row.endsInDigit_eq_false (h : scale.Orderly) (hl : scale.Lettered)
    (hrow : scale.Row cs s) : endsInDigit s = false := by
  induction hrow with
  | nil hw => exact endsInDigit_blanks hw
  | @cons v t cs c hv hrow ih =>
    by_cases ht : t = []
    · obtain ⟨a, x, hc, hx, -⟩ := c.exists_last h hl
      have hsplit : v ++ (c.text ++ t) = v ++ a ++ [x] := by
        rw [ht, hc]
        simp
      rw [hsplit, endsInDigit_append (List.cons_ne_nil x [])]
      simpa [endsInDigit] using hx
    · rw [← List.append_assoc, endsInDigit_append ht]
      exact ih

theorem isLiteral_blanks_append (hw : ∀ c ∈ w, isBlank c = true) :
    scale.IsLiteral (w ++ s) n ↔ scale.IsLiteral s n := by
  rw [isLiteral_iff, isLiteral_iff, skipBlanks_append hw]

/-- **Blanks behind a literal do not change its value**, and they make no literal of another text.
Only behind a bare tail they may not stand. -/
theorem Orderly.isLiteral_append_blanks (h : scale.Orderly) (hl : scale.Lettered)
    (hw : ∀ c ∈ w, isBlank c = true) :
    scale.IsLiteral (s ++ w) n ↔ scale.IsLiteral s n ∧ (w = [] ∨ scale.Tailless s) := by
  by_cases hnil : w = []
  · simp [hnil]
  constructor
  · intro hn
    -- a blank at the end is no bare tail, so the whole text is a row
    have htail : endsInDigit (s ++ w) = false := by
      rw [endsInDigit_append hnil, endsInDigit_blanks hw]
    obtain ⟨cs, hcs, hrow, rfl⟩ := hn.exists_row (.inr htail)
    have hrow' := hrow.of_append_blanks h hl hw
    exact ⟨hrow'.isLiteral hl hcs, .inr (.inr (hrow'.endsInDigit_eq_false h hl))⟩
  · rintro ⟨hn, htail⟩
    obtain ⟨cs, hcs, hrow, rfl⟩ := hn.exists_row (htail.resolve_left hnil)
    have happend := hrow.append (.nil hw)
    rw [List.append_nil] at happend
    exact happend.isLiteral hl hcs

theorem Orderly.read_pad (h : scale.Orderly) (hl : scale.Lettered) {u s w : String} {v : Nat}
    (hu : ∀ c ∈ u.toList, isBlank c = true) (hw : ∀ c ∈ w.toList, isBlank c = true) :
    scale.read (u ++ s ++ w) = .ok v ↔
      scale.read s = .ok v ∧ (w = "" ∨ scale.Tailless s.toList) := by
  rw [h.read_eq_ok_iff, h.read_eq_ok_iff, String.toList_append, String.toList_append,
    List.append_assoc, isLiteral_blanks_append hu, h.isLiteral_append_blanks hl hw,
    String.toList_eq_nil_iff]
  tauto

end Scale

/-- **Blanks around a literal.**  A duration is read as the same value with blanks around it, and no
other text becomes a duration by them.  The same holds of sizes and blanks before them; behind a
size blanks may stand unless it ends with a number without unit, which then is no longer read. -/
theorem parse_pad {u s w : String} (hu : ∀ c ∈ u.toList, isBlank c = true)
    (hw : ∀ c ∈ w.toList, isBlank c = true) :
    (∀ v, parseDuration (u ++ s ++ w) = .ok v ↔ parseDuration s = .ok v) ∧
      ∀ v, parseSize (u ++ s ++ w) = .ok v ↔
        parseSize s = .ok v ∧ (w = "" ∨ endsInDigit s.toList = false) := by
  refine ⟨fun v => ?_, fun v => ?_⟩
  · refine (Scale.duration_orderly.read_pad Scale.duration_lettered hu hw).trans ?_
    exact and_iff_left (.inr (.inl rfl))
  · refine (Scale.size_orderly.read_pad Scale.size_lettered hu hw).trans ?_
    simp [Scale.Tailless, Scale.size, parseSize]

/-- All four blanks around two components, and blanks before a number without unit. -/
theorem parse_pad_components :
    (∀ c ∈ "\t \r\n".toList, isBlank c = true) ∧
      parseDuration ("\t \r\n" ++ "1h 30m" ++ "\t \r\n") = .ok 5400000 ∧
      parseSize ("\t \r\n" ++ "1KB2kb" ++ "\t \r\n") = .ok 3024 ∧
      parseSize ("\t \r\n" ++ "1KB 5" ++ "") = .ok 1029 := by
  have hblank : ∀ c ∈ "\t \r\n".toList, isBlank c = true := List.all_eq_true.1 (by decide)
  have hduration : parseDuration "1h 30m" = .ok 5400000 := by decide +kernel
  have hsize : parseSize "1KB2kb" = .ok 3024 := by decide +kernel
  have htail : parseSize "1KB 5" = .ok 1029 := by decide +kernel
  have hunit : endsInDigit "1KB2kb".toList = false := by decide
  refine ⟨hblank, ?_, ?_, ?_⟩
  · exact ((parse_pad (s := "1h 30m") hblank hblank).1 5400000).2 hduration
  · exact ((parse_pad (s := "1KB2kb") hblank hblank).2 3024).2 ⟨hsize, .inr hunit⟩
  · exact ((parse_pad (s := "1KB 5") (w := "") hblank (by simp)).2 1029).2 ⟨htail, .inl rfl⟩

/-- One blank behind a number without unit: there the unit is missed. -/
theorem parseSize_bareTail_blank :
    (∀ c ∈ " ".toList, isBlank c = true) ∧ parseSize "5" = .ok 5 ∧
      parseSize ("" ++ "5" ++ " ") = .error ⟨.missingUnit, 1, "5 "⟩ :=
  ⟨List.all_eq_true.1 (by decide), by decide +kernel, by decide +kernel⟩

end FleetQuery
