import FleetQuery.Proofs.Json.Grammar
import FleetQuery.Proofs.Outcome
import FleetQuery.Proofs.Text.Decimal

/-!
# Lexemes at the front of a text

The readers of words, numbers and strings take exactly the lexeme that a text begins with:

* `word_append`, `number_append`, `skipString_append` : what is of the form that the grammar gives
  is taken or skipped;
* `numberText_renderInteger`, `decodeString_renderText` : what is written for an integer or for a
  text is a number or is decoded as that text;
* `isValue_render` : what is written for a value is JSON.
-/

namespace FleetQuery

namespace Json

variable {s u ds f e : List Char} {c : Char} {fault : JsonFault}

theorem word_append (w s : List Char) : word w (w ++ s) = .ok s := by
  induction w with
  | nil => cases s <;> rfl
  | cons c w ih => rw [List.cons_append, word, if_pos (beq_self_eq_true c), ih]

/-! ### Numbers -/

theorem someDigits_append (h : IsCount ds) (hs : ∀ c ∈ s.head?, isDigit c = false) :
    someDigits fault (ds ++ s) = .ok (ds, s) := by
  obtain ⟨d, ds, rfl, hd⟩ := h.exists_cons
  have hrun : LongestRun isDigit ds s := ⟨(List.forall_mem_cons.1 h.2).2, hs⟩
  rw [List.cons_append, someDigits, if_pos hd, hrun.takeWhile_eq, hrun.dropWhile_eq]

theorem wholeDigits_append (h : IsCount ds) (hzero : ds.head? = some '0' → ds = ['0'])
    (hs : ∀ c ∈ s.head?, isDigit c = false) : wholeDigits fault (ds ++ s) = .ok (ds, s) := by
  have hcheck : (ds.head? == some '0' && ds.length != 1) = false := by
    by_cases h0 : ds.head? = some '0'
    · rw [hzero h0]
      rfl
    · rw [beq_eq_false_iff_ne.2 h0, Bool.false_and]
  rw [wholeDigits, someDigits_append h hs, except_ok_bind]
  simp only [hcheck, Bool.false_eq_true, if_false]

theorem FractionText.head? {fraction? : Option (List Char)} (h : FractionText fraction? f)
    (hs : ∀ c ∈ s.head?, isDigit c = false) : ∀ c ∈ (f ++ s).head?, isDigit c = false := by
  cases h with
  | none => exact hs
  | digits _ =>
    rintro c ⟨⟩
    decide

theorem ExponentText.head? {exponent? : Option (Bool × List Char)} (h : ExponentText exponent? e)
    (hs : Stops s) : ∀ c ∈ (e ++ s).head?, isDigit c = false ∧ c ≠ '.' := by
  cases h with
  | none => exact fun c hc => ⟨(hs c hc).1, (hs c hc).2.1⟩
  | digits he _ | plus he _ | minus he _ =>
    rintro c ⟨⟩
    rcases he with rfl | rfl <;> decide

theorem fractionDigits_append {fraction? : Option (List Char)} (h : FractionText fraction? f)
    (hs : ∀ c ∈ s.head?, isDigit c = false ∧ c ≠ '.') :
    fractionDigits fault (f ++ s) = .ok (fraction?, s) := by
  cases h with
  | none =>
    rw [List.nil_append]
    unfold fractionDigits
    split
    · exact absurd rfl (hs '.' rfl).2
    · rfl
  | digits hds =>
    rw [List.cons_append, fractionDigits, someDigits_append hds fun c hc => (hs c hc).1]
    rfl

theorem exponentDigits_append {exponent? : Option (Bool × List Char)}
    (h : ExponentText exponent? e) (hs : Stops s) :
    exponentDigits fault (e ++ s) = .ok (exponent?, s) := by
  have hdigit : ∀ c ∈ s.head?, isDigit c = false := fun c hc => (hs c hc).1
  cases h with
  | none =>
    rw [List.nil_append]
    unfold exponentDigits
    split
    · exact absurd rfl (hs 'e' rfl).2.2.1
    · exact absurd rfl (hs 'E' rfl).2.2.2
    · rfl
  | @digits _ ds he hds =>
    have hsigned : signedDigits fault (ds ++ s) = .ok ((false, ds), s) := by
      unfold signedDigits
      split
      · rename_i heq
        exact absurd heq (hds.append_ne_cons (by decide))
      · rename_i heq
        exact absurd heq (hds.append_ne_cons (by decide))
      · rw [someDigits_append hds hdigit]
        rfl
    rcases he with rfl | rfl
    all_goals
      rw [List.cons_append, exponentDigits, hsigned]
      rfl
  | plus he hds | minus he hds =>
    rcases he with rfl | rfl
    all_goals
      rw [List.cons_append, List.cons_append, exponentDigits, signedDigits,
        someDigits_append hds hdigit]
      rfl

theorem number_append {p : NumberParts} {v : List Char} (h : NumberText p v) (hs : Stops s) :
    number fault (v ++ s) = .ok (p, s) := by
  cases h with
  | @mk negative whole f e fraction? exponent? hwhole hzero hf he =>
    have hpoint := he.head? hs
    have hunsigned : unsignedNumber fault negative (whole ++ (f ++ (e ++ s))) =
        .ok (⟨negative, whole, fraction?, exponent?⟩, s) := by
      simp only [unsignedNumber, fractionDigits_append hf hpoint, exponentDigits_append he hs,
        wholeDigits_append hwhole hzero (hf.head? fun c hc => (hpoint c hc).1), except_ok_bind]
    simp only [List.append_assoc]
    cases negative with
    | true => exact hunsigned
    | false =>
      simp only [Bool.false_eq_true, if_false, List.nil_append]
      unfold number
      split
      · rename_i heq
        exact absurd heq (hwhole.append_ne_cons (by decide))
      · exact hunsigned

theorem numberText_renderInteger (n : Int) :
    NumberText ⟨decide (n < 0), Nat.toDigits 10 n.natAbs, none, none⟩ (renderInteger n) := by
  have htext : renderInteger n = (if decide (n < 0) = true then ['-'] else []) ++
      (Nat.toDigits 10 n.natAbs ++ ([] ++ [])) := by
    rw [renderInteger, List.append_nil, List.append_nil]
    by_cases hn : n < 0 <;> simp [hn]
  rw [htext]
  refine .mk (isCount_toDigits _) (fun h => ?_) .none .none
  rw [head?_toDigits h]
  rfl

theorem integer?_toDigits {n : Int} (h : isInteger64 n = true) :
    NumberParts.integer? ⟨decide (n < 0), Nat.toDigits 10 n.natAbs, none, none⟩ = some n := by
  have hsign : (if decide (n < 0) = true then -(n.natAbs : Int) else (n.natAbs : Int)) = n := by
    simp only [decide_eq_true_eq]
    split_ifs <;> omega
  have hzero : (decide (n < 0) && n.natAbs == 0) = false := by
    simp only [Bool.and_eq_false_iff, decide_eq_false_iff_not, beq_eq_false_iff_ne]
    omega
  simp only [NumberParts.integer?, Option.isSome_none, Bool.or_self, Bool.false_eq_true, if_false,
    digitsValue_toDigits, hzero, hsign, h, if_true]

/-! ### Strings -/

theorem length_le_utf8Length (s : List Char) : s.length ≤ utf8Length s := by
  induction s with
  | nil => exact Nat.le_refl 0
  | cons c s ih =>
    have hc := c.utf8Size_pos
    simp only [utf8Length, List.length_cons]
    omega

theorem hexUnit_cons {a b c d : Char} {x y z w : Nat} (ha : hexValue? a = some x)
    (hb : hexValue? b = some y) (hc : hexValue? c = some z) (hd : hexValue? d = some w)
    (s : List Char) :
    hexUnit (a :: b :: c :: d :: s) = .ok (((x * 16 + y) * 16 + z) * 16 + w, s) := by
  have hlength : ¬ utf8Length [a, b, c, d] < 4 := Nat.not_lt.2 (length_le_utf8Length [a, b, c, d])
  have htake : (a :: b :: c :: d :: s).take 4 = [a, b, c, d] := rfl
  have hvalues : [a, b, c, d].mapM hexValue? = some [x, y, z, w] := by
    simp [List.mapM_cons, ha, hb, hc, hd]
  simp only [hexUnit, htake, hlength, if_false, hvalues]
  rfl

theorem skipEscape_unit (hlength : ds.length = 4) (hds : ∀ d ∈ ds, (hexValue? d).isSome = true)
    (s : List Char) : skipEscape ('u' :: (ds ++ s)) = .ok s := by
  obtain ⟨a, b, c, d, rfl⟩ := List.length_eq_four.1 hlength
  simp only [List.forall_mem_cons, Option.isSome_iff_exists] at hds
  obtain ⟨⟨x, ha⟩, ⟨y, hb⟩, ⟨z, hc⟩, ⟨w, hd⟩, -⟩ := hds
  rw [skipEscape, if_pos (beq_self_eq_true _)]
  exact congrArg (Except.map Prod.snd) (hexUnit_cons ha hb hc hd s)

theorem skipEscape_letter (h : c ∈ ['"', '\\', '/', 'b', 'f', 'n', 'r', 't']) (s : List Char) :
    skipEscape (c :: s) = .ok s := by
  simp only [List.mem_cons, List.not_mem_nil, or_false] at h
  rcases h with rfl | rfl | rfl | rfl | rfl | rfl | rfl | rfl <;> rfl

/-- Every step skips a character or an escape, so there are no more steps than characters. -/
theorem skipSteps_append {body : List Char} (h : IsBody body) {n : Nat} (hn : body.length < n)
    (s : List Char) : skipSteps n (body ++ '"' :: s) = .ok s := by
  induction h generalizing n with
  | nil =>
    obtain ⟨n, rfl⟩ := Nat.exists_eq_add_one_of_ne_zero (Nat.ne_zero_of_lt hn)
    rfl
  | @plain c body hquote hbackslash hcontrol _ ih =>
    obtain ⟨n, rfl⟩ := Nat.exists_eq_add_one_of_ne_zero (Nat.ne_zero_of_lt hn)
    rw [List.length_cons] at hn
    rw [List.cons_append, skipSteps, if_neg (by simpa using hquote),
      if_neg (by simpa using hbackslash), if_neg (by omega), ih (by omega)]
  | @letter c body hc _ ih =>
    obtain ⟨n, rfl⟩ := Nat.exists_eq_add_one_of_ne_zero (Nat.ne_zero_of_lt hn)
    simp only [List.length_cons] at hn
    rw [List.cons_append, List.cons_append, skipSteps, if_neg (by decide),
      if_pos (beq_self_eq_true _), skipEscape_letter hc]
    exact ih (by omega)
  | @unit ds body hlength hds _ ih =>
    obtain ⟨n, rfl⟩ := Nat.exists_eq_add_one_of_ne_zero (Nat.ne_zero_of_lt hn)
    simp only [List.length_cons, List.length_append] at hn
    rw [List.cons_append, List.cons_append, skipSteps, if_neg (by decide),
      if_pos (beq_self_eq_true _), List.append_assoc, skipEscape_unit hlength hds]
    exact ih (by omega)

theorem skipString_append {body : List Char} (h : IsBody body) (s : List Char) :
    skipString (body ++ '"' :: s) = .ok s :=
  skipSteps_append h (by simp) s

theorem hexValue?_hexDigit : ∀ n < 16, hexValue? (hexDigit n) = some n := by decide

theorem escape_control (h : c.toNat < 0x20) (s : List Char) :
    escape ('u' :: '0' :: '0' :: hexDigit (c.toNat / 16) :: hexDigit (c.toNat % 16) :: s) =
      .ok (c, s) := by
  have hzero : hexValue? '0' = some 0 := rfl
  have hunit := hexUnit_cons hzero hzero (hexValue?_hexDigit (c.toNat / 16) (by omega))
    (hexValue?_hexDigit (c.toNat % 16) (by omega)) s
  have hvalue : ((0 * 16 + 0) * 16 + c.toNat / 16) * 16 + c.toNat % 16 = c.toNat := by omega
  have hlow : isLowSurrogate c.toNat = false := by simp [isLowSurrogate]; omega
  have hhigh : isHighSurrogate c.toNat = false := by simp [isHighSurrogate]; omega
  rw [hvalue] at hunit
  rw [escape, if_pos (beq_self_eq_true _)]
  refine (congrArg (· >>= _) hunit).trans ?_
  simp only [except_ok_bind, hlow, hhigh, Bool.false_eq_true, if_false, Char.ofNat_toNat]

/-- A character is written as an escape of one letter, as an escape of its code, or as itself. -/
theorem escaped_cases (c : Char) :
    (∃ d ∈ ['"', '\\', '/', 'b', 'f', 'n', 'r', 't'], escaped c = ['\\', d] ∧
      ∀ s, escape (d :: s) = .ok (c, s)) ∨
    (c.toNat < 0x20 ∧
      escaped c = ['\\', 'u', '0', '0', hexDigit (c.toNat / 16), hexDigit (c.toNat % 16)]) ∨
    (c ≠ '"' ∧ c ≠ '\\' ∧ 0x20 ≤ c.toNat ∧ escaped c = [c]) := by
  by_cases hletter : c ∈ ['"', '\\', '\n', '\r', '\t', '\x08', '\x0c']
  · simp only [List.mem_cons, List.not_mem_nil, or_false] at hletter
    rcases hletter with rfl | rfl | rfl | rfl | rfl | rfl | rfl
    all_goals exact .inl ⟨_, by decide, rfl, fun _ => rfl⟩
  · simp only [List.mem_cons, List.not_mem_nil, or_false, not_or] at hletter
    simp only [escaped, beq_iff_eq, hletter, if_false]
    split_ifs with hcontrol
    · exact .inr (.inl ⟨hcontrol, rfl⟩)
    · exact .inr (.inr ⟨hletter.1, hletter.2.1, Nat.le_of_not_lt hcontrol, rfl⟩)

theorem decodeSteps_escaped {n : Nat} {cs rest : List Char} (h : decodeSteps n s = .ok (cs, rest))
    (c : Char) : decodeSteps (n + 1) (escaped c ++ s) = .ok (c :: cs, rest) := by
  have hescape : ∀ {t : List Char}, escape t = .ok (c, s) →
      decodeSteps (n + 1) ('\\' :: t) = .ok (c :: cs, rest) := by
    intro t ht
    rw [decodeSteps, if_neg (by decide), if_pos (beq_self_eq_true _), ht, except_ok_bind]
    dsimp only
    rw [h, except_ok_bind]
  obtain ⟨d, -, hc, hd⟩ | ⟨hcontrol, hc⟩ | ⟨hquote, hbackslash, hcontrol, hc⟩ := escaped_cases c
  · rw [hc]
    exact hescape (hd s)
  · rw [hc]
    exact hescape (escape_control hcontrol s)
  · rw [hc, List.cons_append, List.nil_append, decodeSteps, if_neg (by simpa using hquote),
      if_neg (by simpa using hbackslash), if_neg (Nat.not_lt.2 hcontrol), h, except_ok_bind]

theorem decodeSteps_append (cs : List Char) {n : Nat} (hn : cs.length < n) (s : List Char) :
    decodeSteps n (cs.flatMap escaped ++ '"' :: s) = .ok (cs, s) := by
  induction cs generalizing n with
  | nil =>
    obtain ⟨n, rfl⟩ := Nat.exists_eq_add_one_of_ne_zero (Nat.ne_zero_of_lt hn)
    rfl
  | cons c cs ih =>
    obtain ⟨n, rfl⟩ := Nat.exists_eq_add_one_of_ne_zero (Nat.ne_zero_of_lt hn)
    rw [List.flatMap_cons, List.append_assoc]
    exact decodeSteps_escaped (ih (Nat.lt_of_succ_lt_succ hn)) c

theorem length_le_flatMap_escaped (cs : List Char) : cs.length ≤ (cs.flatMap escaped).length := by
  induction cs with
  | nil => exact Nat.le_refl 0
  | cons c cs ih =>
    have hc : 0 < (escaped c).length := by
      unfold escaped
      split_ifs <;> exact Nat.succ_pos _
    rw [List.flatMap_cons, List.length_append, List.length_cons]
    omega

theorem decodeString_renderText (a : String) (s : List Char) :
    decodeString (a.toList.flatMap escaped ++ '"' :: s) = .ok (a, s) := by
  have hlength := length_le_flatMap_escaped a.toList
  have hsteps : decodeSteps (a.toList.flatMap escaped ++ '"' :: s).length
      (a.toList.flatMap escaped ++ '"' :: s) = .ok (a.toList, s) := by
    refine decodeSteps_append _ ?_ s
    rw [List.length_append, List.length_cons]
    omega
  simp only [decodeString, hsteps, except_ok_bind, String.ofList_toList]

/-! ### What is written -/

theorem isBody_escaped (h : IsBody s) (c : Char) : IsBody (escaped c ++ s) := by
  obtain ⟨d, hd, hc, -⟩ | ⟨hcontrol, hc⟩ | ⟨hquote, hbackslash, hcontrol, hc⟩ := escaped_cases c
  · rw [hc]
    exact .letter hd h
  · have hdigit : ∀ n < 16, (hexValue? (hexDigit n)).isSome = true := fun n hn => by
      rw [hexValue?_hexDigit n hn, Option.isSome_some]
    have hdigits : ∀ d ∈ ['0', '0', hexDigit (c.toNat / 16), hexDigit (c.toNat % 16)],
        (hexValue? d).isSome = true := by
      simp only [List.forall_mem_cons]
      exact ⟨by decide, by decide, hdigit _ (by omega), hdigit _ (by omega), by simp⟩
    rw [hc]
    exact IsBody.unit rfl hdigits h
  · rw [hc]
    exact .plain hquote hbackslash hcontrol h

theorem isString_renderText (x : String) : IsString (renderText x) := by
  have hbody : ∀ cs : List Char, IsBody (cs.flatMap escaped) := by
    intro cs
    induction cs with
    | nil => exact .nil
    | cons c cs ih => exact isBody_escaped ih c
  exact ⟨_, hbody x.toList, rfl⟩

/-- The compact text of every value is JSON. -/
theorem isValue_render : ∀ j : Json, IsValue j.render
  | null => .word (by decide)
  | flag true => .word (by decide)
  | flag false => .word (by decide)
  | integer n => .number (numberText_renderInteger n)
  | text x => .string (isString_renderText x)
  | list items => by
    refine .array (isArray_render items) fun v hv => ?_
    obtain ⟨j, hj, rfl⟩ := List.mem_map.1 hv
    exact isValue_render j
  | object members => by
    refine .object (isObject_render members) (fun m hm => ?_) fun m hm => ?_
    · obtain ⟨m, -, rfl⟩ := List.mem_map.1 hm
      exact isString_renderText _
    · rw [keyed, List.map_map] at hm
      obtain ⟨⟨k, j⟩, hj, rfl⟩ := List.mem_map.1 hm
      exact isValue_render j
termination_by j => sizeOf j
decreasing_by
  · have hlt := List.sizeOf_lt_of_mem hj
    rw [list.sizeOf_spec]
    omega
  · have hlt := List.sizeOf_lt_of_mem hj
    rw [Prod.mk.sizeOf_spec] at hlt
    rw [object.sizeOf_spec]
    omega

end Json

end FleetQuery
