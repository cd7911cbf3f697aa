import FleetQuery.Text.Lowercase
import Mathlib.Data.List.Forall2
import Mathlib.Tactic.SplitIfs

/-!
# Lower case in context

The lower case of a text is put together character by character, and only that of a capital sigma
depends on what stands around it:

* `lowercaseWithin` : the lower case of a text between two others, and `lowercase_append_append`
  that the lower case of a whole is put together from those of its parts;
* `SameSigmas` : the capital sigmas of a part end words in the whole as they do in the part alone;
* `lowercaseWithin_eq_lowercase_iff` : **a part has its own lower case exactly if its capital sigmas
  end words alike**, so in particular if it has none;
* `SameLetter` : equality of characters up to the case of ASCII letters, and
  `lowercase_eq_of_sameLetters` that **the case of ASCII letters does not show in lower case**;
* `lowercase_eq_map` : in ASCII, lower case is that of the single letters.
-/

namespace FleetQuery

variable {before before' s t after after' a p b : List Char} {c d : Char}

/-! ### Parts of a text -/

/-- The lower case of a character between two texts, the one before it nearest character first. -/
def lowercaseBetween (before : List Char) (c : Char) (after : List Char) : List Char :=
  if c == 'Σ' then [if endsWord before after then 'ς' else 'σ'] else lowercaseChar c

/-- The lower case of a text between two others, the one before it nearest character first. -/
def lowercaseWithin (before : List Char) : List Char → List Char → List Char
  | [], _ => []
  | c :: s, after =>
    lowercaseBetween before c (s ++ after) ++ lowercaseWithin (c :: before) s after

/-- The capital sigmas of `p` end words in the text made of `a`, `p` and `b` as they do in `p`. -/
def SameSigmas (a p b : List Char) : Prop :=
  ∀ x y, p = x ++ 'Σ' :: y → endsWord (x.reverse ++ a.reverse) (y ++ b) = endsWord x.reverse y

theorem lowercaseWithin_nil (before s : List Char) :
    lowercaseWithin before s [] = lowercaseAfter before s := by
  induction s generalizing before with
  | nil => rfl
  | cons c s ih =>
    rw [lowercaseWithin, lowercaseAfter, ih, List.append_nil]
    rfl

theorem lowercaseAfter_append (before s t : List Char) :
    lowercaseAfter before (s ++ t) =
      lowercaseWithin before s t ++ lowercaseAfter (s.reverse ++ before) t := by
  induction s generalizing before with
  | nil => rfl
  | cons c s ih =>
    rw [List.cons_append, lowercaseAfter, lowercaseWithin, ih, List.append_assoc,
      List.reverse_cons, List.append_assoc]
    rfl

theorem lowercase_append_append (a p b : List Char) :
    lowercase (a ++ (p ++ b)) = lowercaseWithin [] a (p ++ b) ++
      (lowercaseWithin a.reverse p b ++ lowercaseAfter (p.reverse ++ a.reverse) b) := by
  rw [lowercase, lowercaseAfter_append, lowercaseAfter_append, List.append_nil]

/-! ### Sigmas -/

/-- Whatever stands around a character, its lower case is of one length. -/
theorem length_lowercaseBetween (before before' after after' : List Char) (c : Char) :
    (lowercaseBetween before c after).length = (lowercaseBetween before' c after').length := by
  rw [lowercaseBetween, lowercaseBetween]
  split <;> rfl

theorem length_lowercaseWithin (before before' after after' s : List Char) :
    (lowercaseWithin before s after).length = (lowercaseWithin before' s after').length := by
  induction s generalizing before before' with
  | nil => rfl
  | cons c s ih =>
    rw [lowercaseWithin, lowercaseWithin, List.length_append, List.length_append,
      length_lowercaseBetween before before', ih]

/-- What stands around a character matters only to a capital sigma. -/
theorem lowercaseBetween_eq_iff :
    lowercaseBetween before c after = lowercaseBetween before' c after' ↔
      (c = 'Σ' → endsWord before after = endsWord before' after') := by
  rw [lowercaseBetween, lowercaseBetween]
  by_cases hc : c = 'Σ'
  · cases endsWord before after <;> cases endsWord before' after' <;> simp [hc]
  · simp [hc]

/-- What stands around a text matters only to its capital sigmas. -/
theorem lowercaseWithin_eq_iff :
    lowercaseWithin before s after = lowercaseWithin before' s after' ↔
      ∀ x y, s = x ++ 'Σ' :: y →
        endsWord (x.reverse ++ before) (y ++ after) =
          endsWord (x.reverse ++ before') (y ++ after') := by
  induction s generalizing before before' with
  | nil => simp [lowercaseWithin]
  | cons c s ih =>
    -- the first parts are of one length, so the texts are equal part by part
    have hsplit : lowercaseWithin before (c :: s) after = lowercaseWithin before' (c :: s) after' ↔
        lowercaseBetween before c (s ++ after) = lowercaseBetween before' c (s ++ after') ∧
          lowercaseWithin (c :: before) s after = lowercaseWithin (c :: before') s after' := by
      constructor
      · intro h
        exact List.append_inj h (length_lowercaseBetween ..)
      · rintro ⟨hc, hs⟩
        rw [lowercaseWithin, lowercaseWithin, hc, hs]
    rw [hsplit, lowercaseBetween_eq_iff, ih]
    constructor
    · rintro ⟨hc, hs⟩ x y hxy
      obtain - | ⟨d, x⟩ := x
      · obtain ⟨rfl, rfl⟩ := List.cons.inj hxy
        exact hc rfl
      · obtain ⟨rfl, rfl⟩ := List.cons.inj hxy
        simpa using hs x y rfl
    · intro h
      refine ⟨?_, ?_⟩
      · rintro rfl
        exact h [] s rfl
      · rintro x y rfl
        simpa using h (c :: x) y rfl

/-- **A part has its own lower case exactly if its capital sigmas end words alike.** -/
theorem lowercaseWithin_eq_lowercase_iff :
    lowercaseWithin a.reverse p b = lowercase p ↔ SameSigmas a p b := by
  rw [lowercase, ← lowercaseWithin_nil, lowercaseWithin_eq_iff]
  simp only [List.append_nil]
  rfl

instance : Decidable (SameSigmas a p b) :=
  decidable_of_iff _ lowercaseWithin_eq_lowercase_iff

theorem sameSigmas_of_not_mem (h : 'Σ' ∉ p) (a b : List Char) : SameSigmas a p b := by
  rintro x y rfl
  exact absurd (by simp) h

/-! ### Letters of ASCII -/

/-- `c` is a capital letter of ASCII, and `d` the same letter as a small one. -/
def IsCasePair (c d : Char) : Prop := 65 ≤ c.toNat ∧ c.toNat ≤ 90 ∧ d.toNat = c.toNat + 32

/-- The characters are equal up to the case of ASCII letters. -/
def SameLetter (c d : Char) : Prop := c = d ∨ IsCasePair c d ∨ IsCasePair d c

instance : Decidable (IsCasePair c d) := instDecidableAnd

instance : Decidable (SameLetter c d) := instDecidableOr

/-- All characters are in ASCII. -/
def IsAscii (s : List Char) : Prop := ∀ c ∈ s, c.toNat < 128

instance : Decidable (IsAscii s) := List.decidableBAll (fun c : Char => c.toNat < 128) s

theorem toNat_toLower (c : Char) :
    c.toLower.toNat = if 65 ≤ c.toNat ∧ c.toNat ≤ 90 then c.toNat + 32 else c.toNat := by
  by_cases h : 65 ≤ c.toNat ∧ c.toNat ≤ 90
  · have hcapital : c.val ≥ 'A'.val ∧ c.val ≤ 'Z'.val := h
    have hlower : c.toLower.toNat = (c.val + 32).toNat := congrArg Char.toNat (dif_pos hcapital)
    have hle : c.val.toNat ≤ 90 := h.2
    rw [if_pos h, hlower, UInt32.toNat_add]
    exact Nat.mod_eq_of_lt (by simp only [UInt32.reduceToNat]; omega)
  · have hother : ¬ (c.val ≥ 'A'.val ∧ c.val ≤ 'Z'.val) := h
    rw [if_neg h]
    exact congrArg Char.toNat (dif_neg hother)

theorem sameLetter_iff : SameLetter c d ↔ c.toLower = d.toLower := by
  rw [← Char.toNat_inj, toNat_toLower, toNat_toLower, SameLetter, IsCasePair, IsCasePair,
    ← Char.toNat_inj]
  split_ifs <;> omega

theorem inRanges_of_sameLetter {ranges : List (Nat × Nat)}
    (hranges : ∀ n < 26, inRanges (n + 65) ranges = inRanges (n + 97) ranges)
    (h : SameLetter c d) : inRanges c.toNat ranges = inRanges d.toNat ranges := by
  have hpair {c d : Char} (h : IsCasePair c d) :
      inRanges c.toNat ranges = inRanges d.toNat ranges := by
    obtain ⟨hlo, hhi, hcd⟩ := h
    have hn := hranges (c.toNat - 65) (by omega)
    rwa [Nat.sub_add_cancel hlo, show c.toNat - 65 + 97 = d.toNat by omega] at hn
  rcases h with rfl | h | h
  · rfl
  · exact hpair h
  · exact (hpair h).symm

theorem isCased_of_sameLetter (h : SameLetter c d) : isCased c = isCased d :=
  inRanges_of_sameLetter (by decide +kernel) h

theorem inRanges_eq_false {n : Nat} {ranges : List (Nat × Nat)}
    (h : ∀ r ∈ ranges, n < r.1 ∨ r.2 < n) : inRanges n ranges = false := by
  rw [← Bool.not_eq_true, inRanges_iff]
  rintro ⟨r, hr, hlo, hhi⟩
  have hout := h r hr
  omega

theorem isCaseIgnorable_of_sameLetter (h : SameLetter c d) :
    isCaseIgnorable c = isCaseIgnorable d := by
  have hranges : ∀ r ∈ caseIgnorableRanges, r.2 < 65 ∨ (90 < r.1 ∧ r.2 < 97) ∨ 122 < r.1 := by
    decide +kernel
  refine inRanges_of_sameLetter (fun n hn => ?_) h
  have hcapital : inRanges (n + 65) caseIgnorableRanges = false := by
    refine inRanges_eq_false fun r hr => ?_
    have hout := hranges r hr
    omega
  have hsmall : inRanges (n + 97) caseIgnorableRanges = false := by
    refine inRanges_eq_false fun r hr => ?_
    have hout := hranges r hr
    omega
  rw [hcapital, hsmall]

theorem leadsCased_of_sameLetters (h : List.Forall₂ SameLetter s t) :
    leadsCased s = leadsCased t := by
  induction h with
  | nil => rfl
  | cons hcd hst ih =>
    rename_i c d s t
    rw [leadsCased, leadsCased, List.dropWhile_cons, List.dropWhile_cons,
      ← isCaseIgnorable_of_sameLetter hcd]
    cases isCaseIgnorable c
    · exact isCased_of_sameLetter hcd
    · exact ih

theorem endsWord_of_sameLetters (hbefore : List.Forall₂ SameLetter before before')
    (hafter : List.Forall₂ SameLetter after after') :
    endsWord before after = endsWord before' after' := by
  rw [endsWord, endsWord, leadsCased_of_sameLetters hbefore, leadsCased_of_sameLetters hafter]

theorem SameLetter.eq_or_lt (h : SameLetter c d) : c = d ∨ (c.toNat < 128 ∧ d.toNat < 128) := by
  rcases h with h | ⟨-, hc, hd⟩ | ⟨-, hd, hc⟩
  · exact .inl h
  · exact .inr (by omega)
  · exact .inr (by omega)

theorem lowercaseChar_of_lt (h : c.toNat < 128) : lowercaseChar c = [c.toLower] :=
  if_pos h

theorem ne_sigma_of_lt (h : c.toNat < 128) : c ≠ 'Σ' := by
  rintro rfl
  exact absurd h (by decide)

theorem lowercaseBetween_of_lt (h : c.toNat < 128) (before after : List Char) :
    lowercaseBetween before c after = [c.toLower] := by
  rw [lowercaseBetween, if_neg (by simpa using ne_sigma_of_lt h), lowercaseChar_of_lt h]

theorem lowercaseBetween_of_sameLetters (hbefore : List.Forall₂ SameLetter before before')
    (hcd : SameLetter c d) (hafter : List.Forall₂ SameLetter after after') :
    lowercaseBetween before c after = lowercaseBetween before' d after' := by
  rcases hcd.eq_or_lt with rfl | ⟨hc, hd⟩
  · exact lowercaseBetween_eq_iff.mpr fun _ => endsWord_of_sameLetters hbefore hafter
  · rw [lowercaseBetween_of_lt hc, lowercaseBetween_of_lt hd, sameLetter_iff.mp hcd]

theorem lowercaseAfter_of_sameLetters (h : List.Forall₂ SameLetter s t)
    (hbefore : List.Forall₂ SameLetter before before') :
    lowercaseAfter before s = lowercaseAfter before' t := by
  induction h generalizing before before' with
  | nil => rfl
  | cons hcd hst ih =>
    exact congrArg₂ (· ++ ·) (lowercaseBetween_of_sameLetters hbefore hcd hst)
      (ih (.cons hcd hbefore))

/-- **The case of ASCII letters does not show in lower case.** -/
theorem lowercase_eq_of_sameLetters (h : List.Forall₂ SameLetter s t) :
    lowercase s = lowercase t :=
  lowercaseAfter_of_sameLetters h .nil

theorem lowercaseAfter_eq_map (h : IsAscii s) (before : List Char) :
    lowercaseAfter before s = s.map Char.toLower := by
  induction s generalizing before with
  | nil => rfl
  | cons c s ih =>
    obtain ⟨hc, hs⟩ := List.forall_mem_cons.mp h
    exact congrArg₂ (· ++ ·) (lowercaseBetween_of_lt hc before s) (ih hs (c :: before))

/-- In ASCII, lower case is that of the single letters. -/
theorem lowercase_eq_map (h : IsAscii s) : lowercase s = s.map Char.toLower :=
  lowercaseAfter_eq_map h []

end FleetQuery
