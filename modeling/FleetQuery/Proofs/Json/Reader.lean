import FleetQuery.Json.Record
import FleetQuery.Proofs.Json.Skip
import FleetQuery.Proofs.Time.Stamp

/-!
# Readers at the front of a text

`Takes read v a` says that a reader takes the text `v` for the value `a` wherever it stands: behind
blanks, and before anything that does not go on with a number.

* `takes_text`, `takes_flag`, `takes_integer`, `takes_instant` : what is written for a text, a truth
  value, a signed 64-bit integer or an instant is taken for it;
* `takes_null`, `takes_some`, `takes_list` : what is taken for values is taken for them in an
  optional value and in an array;
* `readObjectBody_eq` : the members of an object are read one after the other, as `Steps` says;
* `readWhole_eq` : a text that is taken is read as a whole.
-/

namespace FleetQuery

namespace Json

variable {α β σ : Type} {read : Reader α} {s t u v rest : List Char} {a : α}

/-- The reader takes the text for the value, wherever it stands. -/
structure Takes (read : Reader α) (v : List Char) (a : α) : Prop where
  /-- The text begins as values do. -/
  begins : Begins v
  /-- The reader takes the text and leaves what is behind it. -/
  read_eq : ∀ {s rest : List Char}, Padded s (v ++ rest) → Stops rest → read s = .ok (a, rest)

theorem reader_bind (f : α → Reader β) (h : read s = .ok (a, t)) : (read >>= f) s = f a t := by
  show (read s >>= fun p => f p.1 p.2) = f a t
  rw [h]
  rfl

theorem readWhole_eq (h : Takes read v a) : readWhole read (String.ofList v) = .ok a := by
  have hread : read v = .ok (a, []) :=
    h.read_eq (by rw [List.append_nil]; exact .refl v) stops_nil
  rw [readWhole, String.toList_ofList, hread]
  rfl

/-! ### Simple values -/

theorem renderText_append (x : String) (s : List Char) :
    renderText x ++ s = '"' :: (x.toList.flatMap escaped ++ '"' :: s) := by
  rw [renderText, List.append_assoc, List.cons_append]
  rfl

theorem begins_renderText (x : String) : Begins (renderText x) :=
  ⟨'"', _, rfl, by decide, by decide⟩

theorem takes_text (x : String) : Takes readText (renderText x) x where
  begins := begins_renderText x
  read_eq := by
    intro s rest hs _
    have hskip := (begins_renderText x).skipBlanks_eq hs
    rw [renderText_append] at hskip
    simp only [readText, hskip]
    exact decodeString_renderText x rest

theorem takes_flag (b : Bool) : Takes readFlag (flag b).render b where
  begins := by cases b <;> exact ⟨_, _, rfl, by decide, by decide⟩
  read_eq := by
    intro s rest hs _
    cases b with
    | true =>
      have hskip : skipBlanks s = 't' :: (['r', 'u', 'e'] ++ rest) :=
        (padded_cons_iff (by decide)).1 hs
      simp only [readFlag, hskip, word_append]
      rfl
    | false =>
      have hskip : skipBlanks s = 'f' :: (['a', 'l', 's', 'e'] ++ rest) :=
        (padded_cons_iff (by decide)).1 hs
      simp only [readFlag, hskip, word_append]
      rfl

theorem takes_integer {n : Int} (h : isInteger64 n = true) :
    Takes readInteger (renderInteger n) n where
  begins := (numberText_renderInteger n).begins
  read_eq := by
    intro s rest hs hrest
    have hskip := (numberText_renderInteger n).begins.skipBlanks_eq hs
    simp only [readInteger, hskip, number_append (numberText_renderInteger n) hrest,
      integer?_toDigits h]

theorem takes_instant (x : Instant) :
    Takes Codec.instant.read (renderText (String.ofList x.write)) x where
  begins := begins_renderText _
  read_eq := by
    intro s rest hs hrest
    refine (reader_bind _ ((takes_text _).read_eq hs hrest)).trans ?_
    rw [String.toList_ofList, Instant.read?_write]
    rfl

theorem takes_null (read : Reader α) : Takes (readOptional read) null.render none where
  begins := ⟨_, _, rfl, by decide, by decide⟩
  read_eq := by
    intro s rest hs _
    have hskip : skipBlanks s = 'n' :: (['u', 'l', 'l'] ++ rest) :=
      (padded_cons_iff (by decide)).1 hs
    simp only [readOptional, hskip, word_append]
    rfl

theorem takes_some (h : Takes read v a) (hv : v.head? ≠ some 'n') :
    Takes (readOptional read) v (some a) where
  begins := h.begins
  read_eq := by
    intro s rest hs hrest
    have hread := h.read_eq (.refl (v ++ rest)) hrest
    rw [readOptional, h.begins.skipBlanks_eq hs]
    obtain ⟨c, v, rfl, -, -⟩ := h.begins
    split
    · rename_i heq
      exact absurd (congrArg some (List.cons.inj heq).1) hv
    · rw [hread]
      rfl

/-! ### Arrays -/

theorem atItem_first (h : Begins v) (hs : Padded s (v ++ t)) :
    atItem true s = .ok (true, v ++ t) := by
  have hskip := h.skipBlanks_eq hs
  obtain ⟨c, v, rfl, -, hc⟩ := h
  rw [atItem, hskip]
  split
  · rename_i heq
    cases heq
  · rename_i heq
    exact absurd (List.cons.inj heq).1 hc
  · rename_i heq
    rw [heq, if_pos rfl]

theorem atItem_next (hs : Padded s (',' :: t)) (h : Begins v) (ht : Padded t (v ++ u)) :
    atItem false s = .ok (true, v ++ u) := by
  have hskip := h.skipBlanks_eq ht
  obtain ⟨c, v, rfl, -, hc⟩ := h
  rw [atItem, (padded_cons_iff (by decide)).1 hs]
  refine (if_neg Bool.false_ne_true).trans ((if_pos rfl).trans ?_)
  rw [hskip]
  split
  · rename_i heq
    cases heq
  · rename_i heq
    exact absurd (List.cons.inj heq).1 hc
  · rfl

theorem atItem_close {first : Bool} (hs : Padded s (']' :: t)) :
    atItem first s = .ok (false, ']' :: t) := by
  simp only [atItem, (padded_cons_iff (by decide)).1 hs]

theorem closeArray_eq (hs : Padded s (']' :: t)) : closeArray s = .ok ((), t) := by
  simp only [closeArray, (padded_cons_iff (by decide)).1 hs]

theorem readItems_cons {n : Nat} {first : Bool} {as : List α}
    (hat : atItem first s = .ok (true, v ++ t)) (ha : Takes read v a) (ht : Stops t)
    (has : readItems read n false t = .ok (as, rest)) :
    readItems read (n + 1) first s = .ok (a :: as, rest) := by
  rw [readItems, reader_bind _ hat, if_pos rfl, reader_bind _ (ha.read_eq (.refl _) ht),
    reader_bind _ has]
  rfl

theorem readItems_close {n : Nat} {first : Bool} (hs : Padded s (']' :: t)) :
    readItems read (n + 1) first s = .ok ([], t) := by
  rw [readItems, reader_bind _ (atItem_close hs), if_neg (by decide),
    reader_bind _ (closeArray_eq (.refl _))]
  rfl

theorem Further.length_lt {Item : List Char → β → List Char → Prop} {close : Char} {bs : List β}
    (hitem : ∀ {s t : List Char} {b : β}, Item s b t → t.length ≤ s.length)
    (h : Further Item close rest s bs) : bs.length < s.length := by
  induction h with
  | none hclose =>
    have hlength := hclose.suffix.length_le
    rw [List.length_cons] at hlength
    rw [List.length_nil]
    omega
  | more hcomma ha _ ih =>
    have hlength := hcomma.suffix.length_le
    have hitem_length := hitem ha
    rw [List.length_cons] at hlength ⊢
    omega

theorem readItems_further {vs : List (List Char)} {as : List α}
    (h : Further IsItem ']' rest s vs) (has : List.Forall₂ (Takes read) vs as) {n : Nat}
    (hn : vs.length < n) : readItems read n false s = .ok (as, rest) := by
  obtain ⟨n, rfl⟩ := Nat.exists_eq_add_one_of_ne_zero (Nat.ne_zero_of_lt hn)
  induction h generalizing as n with
  | none hclose =>
    cases has
    exact readItems_close hclose
  | more hcomma hv hfurther ih =>
    cases has with
    | cons ha has =>
      rw [List.length_cons] at hn
      obtain ⟨n, rfl⟩ := Nat.exists_eq_add_one_of_ne_zero (show n ≠ 0 by omega)
      exact readItems_cons (atItem_next hcomma ha.begins hv) ha (hfurther.stops (.inl rfl))
        (ih has n (by omega))

theorem takes_list {vs : List (List Char)} {as : List α} (h : IsArray v vs [])
    (has : List.Forall₂ (Takes read) vs as) : Takes (readArray read) v as where
  begins := by
    obtain ⟨v', rfl⟩ := h.exists_cons
    exact ⟨'[', v', rfl, by decide, by decide⟩
  read_eq := by
    intro s rest hs _
    have h := h.append rest
    rw [List.nil_append] at h
    generalize v ++ rest = text at h hs
    cases h with
    | empty hclose =>
      cases has
      simp only [readArray, (padded_cons_iff (by decide)).1 hs]
      exact readItems_close hclose
    | @items s' t _ w ws hw hfurther =>
      cases has with
      | cons ha has =>
        have hlength := hfurther.length_lt fun h => (Nat.le_add_left _ _).trans (IsItem.length_le h)
        have hitem := hw.length_le
        simp only [readArray, (padded_cons_iff (by decide)).1 hs]
        exact readItems_cons (atItem_first ha.begins hw) ha (hfurther.stops (.inl rfl))
          (readItems_further hfurther has (by omega))

/-! ### Objects -/

theorem atKey_first (hs : Padded s ('"' :: t)) : atKey true s = .ok (true, t) := by
  simp only [atKey, (padded_cons_iff (by decide)).1 hs]
  rfl

theorem atKey_next (hs : Padded s (',' :: t)) (ht : Padded t ('"' :: u)) :
    atKey false s = .ok (true, u) := by
  rw [atKey, (padded_cons_iff (by decide)).1 hs]
  refine (if_neg Bool.false_ne_true).trans ((if_pos rfl).trans ?_)
  rw [(padded_cons_iff (by decide)).1 ht]
  rfl

theorem atKey_close {first : Bool} (hs : Padded s ('\x7d' :: t)) :
    atKey first s = .ok (false, t) := by
  simp only [atKey, (padded_cons_iff (by decide)).1 hs]

theorem readColon_eq (hs : Padded s (':' :: t)) : readColon s = .ok ((), t) := by
  simp only [readColon, (padded_cons_iff (by decide)).1 hs]

/-- The steps of an object lead from one state to another by taking up some keys with the texts of
their values. -/
inductive Steps (step : σ → String → Reader σ) : σ → List (String × List Char) → σ → Prop
  /-- No key is left. -/
  | nil {a : σ} : Steps step a [] a
  /-- A key with its value is taken up before the others. -/
  | cons {a b c : σ} {m : String × List Char} {ms : List (String × List Char)} :
      (∀ {s t rest : List Char}, Padded s (':' :: t) → Padded t (m.2 ++ rest) → Stops rest →
        step a m.1 s = .ok (b, rest)) →
      Steps step b ms c → Steps step a (m :: ms) c

section Steps

variable {step : σ → String → Reader σ} {x y z : σ} {n : Nat} {first : Bool}
  {m : String × List Char} {ms : List (String × List Char)}

theorem readMembers_close (hs : Padded s ('\x7d' :: t)) :
    readMembers step (n + 1) first x s = .ok (x, t) := by
  rw [readMembers, reader_bind _ (atKey_close hs), if_neg (by decide)]
  rfl

theorem readMembers_cons (hat : atKey first s = .ok (true, m.1.toList.flatMap escaped ++ '"' :: t))
    (hstep : step x m.1 t = .ok (y, u)) (hms : readMembers step n false y u = .ok (z, rest)) :
    readMembers step (n + 1) first x s = .ok (z, rest) := by
  rw [readMembers, reader_bind _ hat, if_pos rfl,
    reader_bind _ (decodeString_renderText m.1 t), reader_bind _ hstep, hms]

theorem readMembers_further (h : Further IsMember '\x7d' rest s (keyed ms))
    (hsteps : Steps step x ms z) (hn : ms.length < n) :
    readMembers step n false x s = .ok (z, rest) := by
  obtain ⟨n, rfl⟩ := Nat.exists_eq_add_one_of_ne_zero (Nat.ne_zero_of_lt hn)
  induction hsteps generalizing s n with
  | nil =>
    cases h with
    | none hclose => exact readMembers_close hclose
  | @cons x y z m ms hstep _ ih =>
    cases h with
    | more hcomma hm hfurther =>
      obtain ⟨t, u, hkey, hcolon, hvalue⟩ := hm
      rw [renderText_append] at hkey
      rw [List.length_cons] at hn
      obtain ⟨n, rfl⟩ := Nat.exists_eq_add_one_of_ne_zero (show n ≠ 0 by omega)
      exact readMembers_cons (atKey_next hcomma hkey)
        (hstep hcolon hvalue (hfurther.stops (.inr rfl))) (ih hfurther n (by omega))

theorem readObjectBody_eq (h : IsObject ('\x7b' :: s) (keyed ms) rest)
    (hsteps : Steps step x ms z) : readObjectBody step x s = .ok (z, rest) := by
  rw [readObjectBody]
  cases hsteps with
  | nil =>
    cases h with
    | empty hclose => exact readMembers_close hclose
  | @cons _ y _ m ms hstep hsteps =>
    cases h with
    | items hm hfurther =>
      have hlength := hfurther.length_lt fun h => (Nat.le_add_left _ _).trans h.length_lt.le
      have hitem := hm.length_lt
      obtain ⟨t, u, hkey, hcolon, hvalue⟩ := hm
      rw [renderText_append] at hkey
      rw [List.length_map] at hlength
      exact readMembers_cons (atKey_first hkey) (hstep hcolon hvalue (hfurther.stops (.inr rfl)))
        (readMembers_further hfurther hsteps (by omega))

end Steps

end Json

end FleetQuery
