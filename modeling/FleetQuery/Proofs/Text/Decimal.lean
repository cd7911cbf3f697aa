import FleetQuery.Proofs.Literal.Grammar

/-!
# Decimals that are written

Natural numbers are written with `Nat.toDigits 10`, and `padded` puts zeros before them up to a
width:

* `isCount_toDigits`, `isCount_padded` : what is written is one or more digits;
* `digitsValue_toDigits`, `digitsValue_padded` : its value is the number;
* `head?_toDigits` : only zero begins with a zero;
* `length_padded` : a number that fits into the width has exactly that many digits.
-/

namespace FleetQuery

variable {n width : Nat} {c : Char} {s t ds : List Char}

theorem IsCount.exists_cons (h : IsCount ds) : ∃ d ds', ds = d :: ds' ∧ isDigit d = true := by
  obtain ⟨d, ds', rfl⟩ := List.exists_cons_of_ne_nil h.1
  exact ⟨d, ds', rfl, h.2 d List.mem_cons_self⟩

theorem IsCount.append_ne_cons (h : IsCount ds) (hc : isDigit c = false) : ds ++ s ≠ c :: t := by
  obtain ⟨d, ds', rfl, hd⟩ := h.exists_cons
  intro heq
  rw [(List.cons.inj heq).1, hc] at hd
  cases hd

theorem digitsValue_eq_ofDigitChars (ds : List Char) :
    digitsValue ds = Nat.ofDigitChars 10 ds 0 := by
  rw [digitsValue, Nat.ofDigitChars_eq_foldl]

theorem digitsValue_toDigits (n : Nat) : digitsValue (Nat.toDigits 10 n) = n := by
  rw [digitsValue_eq_ofDigitChars, Nat.ofDigitChars_ten_toDigits]

theorem isDigit_iff : isDigit c = true ↔ c.isDigit = true := by
  simp only [isDigit, Char.isDigit, Bool.and_eq_true, decide_eq_true_eq]
  rfl

theorem isCount_toDigits (n : Nat) : IsCount (Nat.toDigits 10 n) :=
  ⟨Nat.toDigits_ne_nil, fun _ hd =>
    isDigit_iff.2 (Nat.isDigit_of_mem_toDigits (by decide) (by decide) hd)⟩

theorem head?_toDigits (h : (Nat.toDigits 10 n).head? = some '0') : n = 0 := by
  induction n using Nat.strongRecOn with
  | _ n ih =>
    rw [Nat.toDigits_eq_if (by decide)] at h
    split at h
    · rename_i hn
      exact Nat.digitChar_eq_zero.1 (Option.some.inj h)
    · have hzero : n / 10 = 0 := by
        refine ih _ (by omega) ?_
        rwa [List.head?_append_of_ne_nil _ Nat.toDigits_ne_nil] at h
      omega

theorem isCount_padded (width n : Nat) : IsCount (padded width n) := by
  refine ⟨fun h => Nat.toDigits_ne_nil (List.append_eq_nil_iff.1 h).2, fun d hd => ?_⟩
  obtain hd | hd := List.mem_append.1 hd
  · rw [List.eq_of_mem_replicate hd]
    decide
  · exact (isCount_toDigits n).2 d hd

theorem digitsValue_padded (width n : Nat) : digitsValue (padded width n) = n := by
  rw [digitsValue_eq_ofDigitChars, padded, Nat.ofDigitChars_append,
    Nat.ofDigitChars_replicate_zero, Nat.mul_zero, Nat.ofDigitChars_ten_toDigits]

theorem length_padded (hwidth : 0 < width) (h : n < 10 ^ width) :
    (padded width n).length = width := by
  have hle : (Nat.toDigits 10 n).length ≤ width :=
    (Nat.length_toDigits_le_iff (by decide) hwidth).2 h
  rw [padded, List.length_append, List.length_replicate]
  omega

end FleetQuery
