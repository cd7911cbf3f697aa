import FleetQuery.Json.Skip
import FleetQuery.Proofs.Json.Lexeme

/-!
# Values that are skipped

Skipping takes exactly the value at the front of a text, whatever the value is and however deep it
is nested: `skipValue_append`.

The loop keeps the open brackets in a list.  `Skips v k` says that `k` steps take it from the front
of `v` to the end of `v`, with the same brackets open.  Arrays and objects are skipped alike: the
first sign and every comma bring the loop to the value of an item (`Enters`), and the closing sign
brings it out again (`Signs`).  This is one step for each sign, so a value has no fewer characters
than steps (`IsValue.skips`), and the steps that the length of the text allows are enough.
-/

namespace FleetQuery

namespace Json

variable {s t u v rest : List Char} {n : Nat} {opened : List Bracket}

/-! ### Steps -/

-- The equations of the step are made here, once for all the lemmas on it.
attribute [local simp] skipStep

theorem skipLoop_succ {done done' : Bool} {opened' : List Bracket}
    (h : skipStep done opened s = .ok (.inl (done', opened', t))) (n : Nat) :
    skipLoop (n + 1) done opened s = skipLoop n done' opened' t := by
  rw [skipLoop, h]

theorem skipStep_scalar {c : Char} (hs : skipBlanks s = c :: t) (hsquare : c ≠ '[')
    (hcurly : c ≠ '\x7b') (h : skipScalar (c :: t) = .ok rest) :
    skipStep false opened s = .ok (.inl (true, opened, rest)) := by
  simp only [skipStep, Bool.false_eq_true, if_false, hs]
  split
  · rename_i heq
    exact absurd (List.cons.inj heq).1 hsquare
  · rename_i heq
    exact absurd (List.cons.inj heq).1 hcurly
  · rw [h]
    rfl

theorem skipStep_emptyArray (hs : Padded s ('[' :: t)) (ht : Padded t (']' :: rest)) :
    skipStep false opened s = .ok (.inl (true, opened, rest)) := by
  simp only [skipStep, Bool.false_eq_true, if_false, (padded_cons_iff (by decide)).1 hs,
    (padded_cons_iff (by decide)).1 ht]

theorem skipStep_openArray (hs : Padded s ('[' :: t)) (hv : Begins v) (ht : Padded t (v ++ rest)) :
    skipStep false opened s = .ok (.inl (false, .square :: opened, skipBlanks t)) := by
  obtain ⟨c, v, rfl, hblank, hc⟩ := hv
  simp only [skipStep, Bool.false_eq_true, if_false, (padded_cons_iff (by decide)).1 hs]
  split
  · rename_i heq
    rw [(padded_cons_iff hblank).1 ht] at heq
    exact absurd (List.cons.inj heq).1 hc
  · rfl

theorem skipStep_nextItem (hs : Padded s (',' :: t)) :
    skipStep true (.square :: opened) s = .ok (.inl (false, .square :: opened, t)) := by
  simp only [skipStep, if_true, (padded_cons_iff (by decide)).1 hs]

theorem skipStep_closeArray (hs : Padded s (']' :: t)) :
    skipStep true (.square :: opened) s = .ok (.inl (true, opened, t)) := by
  simp only [skipStep, if_true, (padded_cons_iff (by decide)).1 hs]

theorem skipKey_eq {k : List Char} (hk : IsString k) (hs : Padded s (k ++ t))
    (ht : Padded t (':' :: u)) : skipKey s = .ok u := by
  have hbegins := hk.begins
  obtain ⟨body, hbody, rfl⟩ := hk
  have hskip : skipString (body ++ ['"'] ++ t) = .ok t := by
    rw [List.append_assoc]
    exact skipString_append hbody t
  simp only [skipKey, hbegins.skipBlanks_eq hs, List.cons_append, hskip, except_ok_bind,
    (padded_cons_iff (by decide)).1 ht]

theorem skipStep_emptyObject (hs : Padded s ('\x7b' :: t)) (ht : Padded t ('\x7d' :: rest)) :
    skipStep false opened s = .ok (.inl (true, opened, rest)) := by
  simp only [skipStep, Bool.false_eq_true, if_false, (padded_cons_iff (by decide)).1 hs,
    (padded_cons_iff (by decide)).1 ht]

theorem skipStep_openObject (hs : Padded s ('\x7b' :: t)) (ht : skipKey t = .ok u) :
    skipStep false opened s = .ok (.inl (false, .curly :: opened, u)) := by
  have hkey : skipKey (skipBlanks t) = .ok u := by
    rw [← ht]
    simp only [skipKey, skipBlanks_skipBlanks]
  simp only [skipStep, Bool.false_eq_true, if_false, (padded_cons_iff (by decide)).1 hs]
  split
  · rename_i heq
    simp only [skipKey, heq] at ht
    cases ht
  · rw [hkey]
    rfl

theorem skipStep_nextMember (hs : Padded s (',' :: t)) (ht : skipKey t = .ok u) :
    skipStep true (.curly :: opened) s = .ok (.inl (false, .curly :: opened, u)) := by
  simp only [skipStep, if_true, (padded_cons_iff (by decide)).1 hs, ht]
  rfl

theorem skipStep_closeObject (hs : Padded s ('\x7d' :: t)) :
    skipStep true (.curly :: opened) s = .ok (.inl (true, opened, t)) := by
  simp only [skipStep, if_true, (padded_cons_iff (by decide)).1 hs]

/-! ### Values -/

/-- In `k` steps the value is skipped, whatever brackets are open. -/
def Skips (v : List Char) (k : Nat) : Prop :=
  ∀ (s rest : List Char) (n : Nat) (opened : List Bracket), Padded s (v ++ rest) → Stops rest →
    skipLoop (n + k) false opened s = skipLoop n true opened rest

theorem skips_scalar {c : Char} (hv : Begins (c :: v)) (hsquare : c ≠ '[') (hcurly : c ≠ '\x7b')
    (h : ∀ rest, Stops rest → skipScalar (c :: (v ++ rest)) = .ok rest) : Skips (c :: v) 1 :=
  fun _ rest n _ hs hrest =>
    skipLoop_succ (skipStep_scalar (hv.skipBlanks_eq hs) hsquare hcurly (h rest hrest)) n

theorem NumberText.skips {p : NumberParts} (h : NumberText p v) : Skips v 1 := by
  have hbegins := h.begins
  have hnumber : ∀ rest, Stops rest → number .malformed (v ++ rest) = .ok (p, rest) :=
    fun _ => number_append h
  obtain ⟨c, v, rfl, hc⟩ := h.exists_cons
  have hne : ∀ {d : Char}, (d == '-' || isDigit d) = false → c ≠ d := by
    rintro d hd rfl
    exact absurd (hd.symm.trans hc) (by decide)
  refine skips_scalar hbegins (hne (by decide)) (hne (by decide)) fun rest hrest => ?_
  have hnumber := hnumber rest hrest
  rw [List.cons_append] at hnumber
  unfold skipScalar
  split <;> rename_i heq
  · exact absurd (List.cons.inj heq).1 (hne (by decide))
  · exact absurd (List.cons.inj heq).1 (hne (by decide))
  · exact absurd (List.cons.inj heq).1 (hne (by decide))
  · exact absurd (List.cons.inj heq).1 (hne (by decide))
  · obtain ⟨rfl, rfl⟩ := List.cons.inj heq
    rw [if_pos hc, hnumber]
    rfl
  · cases heq

theorem IsString.skips (h : IsString v) : Skips v 1 := by
  have hbegins := h.begins
  obtain ⟨body, hbody, rfl⟩ := h
  refine skips_scalar hbegins (by decide) (by decide) fun rest _ => ?_
  rw [List.append_assoc]
  exact skipString_append hbody rest

/-! ### Arrays and objects -/

section Enclosed

variable {α : Type} {Item : List Char → α → List Char → Prop} {value : α → List Char}
  {b : Bracket} {first close : Char} {a : α} {as : List α}

/-- Between the signs the loop has the bracket open. -/
structure Signs (Item : List Char → α → List Char → Prop) (b : Bracket) (first close : Char) :
    Prop where
  /-- The closing sign ends a value. -/
  closing : close = ']' ∨ close = '\x7d'
  /-- An item is the same with more text behind it. -/
  append : ∀ {s t : List Char} {a : α} (u), Item s a t → Item (s ++ u) a (t ++ u)
  /-- Two signs without an item between them take one step. -/
  empty : ∀ {s t rest : List Char} {opened : List Bracket}, Padded s (first :: t) →
    Padded t (close :: rest) → skipStep false opened s = .ok (.inl (true, opened, rest))
  /-- The closing sign closes the bracket. -/
  close : ∀ {s t : List Char} {opened : List Bracket}, Padded s (close :: t) →
    skipStep true (b :: opened) s = .ok (.inl (true, opened, t))

/-- The sign before an item brings the loop to the value of the item, which it can skip. -/
structure Enters (Item : List Char → α → List Char → Prop) (value : α → List Char) (b : Bracket)
    (first : Char) (a : α) : Prop where
  /-- An item has all characters of its value. -/
  length_le : ∀ {s t : List Char}, Item s a t → (value a).length + t.length ≤ s.length
  /-- The first sign opens the bracket. -/
  first : ∀ {s t u : List Char} {opened : List Bracket}, Padded s (first :: t) → Item t a u →
    ∃ t', skipStep false opened s = .ok (.inl (false, b :: opened, t')) ∧ Padded t' (value a ++ u)
  /-- A comma leaves it open. -/
  next : ∀ {s t u : List Char} {opened : List Bracket}, Padded s (',' :: t) → Item t a u →
    ∃ t', skipStep true (b :: opened) s = .ok (.inl (false, b :: opened, t')) ∧
      Padded t' (value a ++ u)
  /-- The value is skipped in no more steps than it has characters. -/
  skips : ∃ k ≤ (value a).length, Skips (value a) k

/-- Behind an item, the loop takes the further ones and leaves the bracket. -/
theorem Further.skips (h : Further Item close [] s as) (hsigns : Signs Item b first close)
    (has : ∀ a ∈ as, Enters Item value b first a) :
    ∃ k ≤ s.length, ∀ (rest : List Char) (n : Nat) (opened : List Bracket),
      skipLoop (n + k) true (b :: opened) (s ++ rest) = skipLoop n true opened rest := by
  induction h with
  | @none s hclose =>
    have hlength := hclose.suffix.length_le
    refine ⟨1, by simpa using hlength, fun rest n opened => ?_⟩
    exact skipLoop_succ (hsigns.close (hclose.append rest)) n
  | @more s t u a as hcomma ha hfurther ih =>
    obtain ⟨hfirst, has⟩ := List.forall_mem_cons.1 has
    obtain ⟨k, hk, hskip⟩ := hfirst.skips
    obtain ⟨k', hk', hskip'⟩ := ih has
    have hcomma_length := hcomma.suffix.length_le
    have hitem_length := hfirst.length_le ha
    rw [List.length_cons] at hcomma_length
    refine ⟨k' + k + 1, by omega, fun rest n opened => ?_⟩
    have hstops := (hfurther.append hsigns.append rest).stops hsigns.closing
    obtain ⟨t', hstep, ht'⟩ := hfirst.next (hcomma.append rest) (hsigns.append rest ha)
    rw [← Nat.add_assoc, ← Nat.add_assoc, skipLoop_succ hstep, hskip _ _ _ _ ht' hstops, hskip']

theorem Enclosed.skips (h : Enclosed Item first close v as []) (hsigns : Signs Item b first close)
    (has : ∀ a ∈ as, Enters Item value b first a) : ∃ k ≤ v.length, Skips v k := by
  cases h with
  | empty hclose =>
    refine ⟨1, by simp, fun s' rest n opened hs _ => ?_⟩
    exact skipLoop_succ (hsigns.empty hs (hclose.append rest)) n
  | @items s t _ a as ha hfurther =>
    obtain ⟨hfirst, has⟩ := List.forall_mem_cons.1 has
    obtain ⟨k, hk, hskip⟩ := hfirst.skips
    obtain ⟨k', hk', hskip'⟩ := hfurther.skips hsigns has
    have hitem_length := hfirst.length_le ha
    refine ⟨k' + k + 1, by rw [List.length_cons]; omega, fun s' rest n opened hs _ => ?_⟩
    have hstops := (hfurther.append hsigns.append rest).stops hsigns.closing
    obtain ⟨t', hstep, ht'⟩ := hfirst.first hs (hsigns.append rest ha)
    rw [← Nat.add_assoc, ← Nat.add_assoc, skipLoop_succ hstep, hskip _ _ _ _ ht' hstops, hskip']

end Enclosed

theorem signs_array : Signs IsItem .square '[' ']' where
  closing := .inl rfl
  append := IsItem.append
  empty := skipStep_emptyArray
  close := skipStep_closeArray

theorem signs_object : Signs IsMember .curly '\x7b' '\x7d' where
  closing := .inr rfl
  append := IsMember.append
  empty := skipStep_emptyObject
  close := skipStep_closeObject

theorem enters_item (hv : Begins v) (hskips : ∃ k ≤ v.length, Skips v k) :
    Enters IsItem (fun v => v) .square '[' v where
  length_le := IsItem.length_le
  first hs ht := ⟨_, skipStep_openArray hs hv ht, hv.padded_skipBlanks ht⟩
  next hs ht := ⟨_, skipStep_nextItem hs, ht⟩
  skips := hskips

theorem enters_member {m : List Char × List Char} (hkey : IsString m.1)
    (hskips : ∃ k ≤ m.2.length, Skips m.2 k) : Enters IsMember Prod.snd .curly '\x7b' m where
  length_le hm := hm.length_lt.le
  first hs ht := by
    obtain ⟨t₁, t₂, hm, hcolon, hvalue⟩ := ht
    exact ⟨t₂, skipStep_openObject hs (skipKey_eq hkey hm hcolon), hvalue⟩
  next hs ht := by
    obtain ⟨t₁, t₂, hm, hcolon, hvalue⟩ := ht
    exact ⟨t₂, skipStep_nextMember hs (skipKey_eq hkey hm hcolon), hvalue⟩
  skips := hskips

/-- A value is skipped in no more steps than it has characters. -/
theorem IsValue.skips (h : IsValue v) : ∃ k ≤ v.length, Skips v k := by
  induction h with
  | word h =>
    simp only [List.mem_cons, List.not_mem_nil, or_false] at h
    rcases h with rfl | rfl | rfl
    all_goals
      refine ⟨1, by decide, skips_scalar ⟨_, _, rfl, by decide, by decide⟩ (by decide) (by decide)
        fun rest _ => ?_⟩
      exact word_append _ rest
  | number h =>
    have hskips := h.skips
    obtain ⟨c, v, rfl, -⟩ := h.exists_cons
    exact ⟨1, by simp, hskips⟩
  | string h =>
    have hskips := h.skips
    obtain ⟨body, -, rfl⟩ := h
    exact ⟨1, by simp, hskips⟩
  | array h hvs ih =>
    exact Enclosed.skips h signs_array fun v hv => enters_item (hvs v hv).begins (ih v hv)
  | object h hkeys _ ih =>
    exact Enclosed.skips h signs_object fun m hm => enters_member (hkeys m hm) (ih m hm)

/-- **Skipping takes exactly the value** that the text goes on with. -/
theorem skipValue_append (h : IsValue v) (hs : Padded s (v ++ rest)) (hrest : Stops rest) :
    skipValue s = .ok rest := by
  obtain ⟨k, hk, hskip⟩ := h.skips
  have hlength := hs.suffix.length_le
  rw [List.length_append] at hlength
  obtain ⟨n, hn⟩ : ∃ n, s.length + 1 = n + 1 + k := ⟨s.length - k, by omega⟩
  rw [skipValue, hn, hskip _ _ _ _ hs hrest]
  rfl

end Json

end FleetQuery
