import FleetQuery.Proofs.Text.Lowercase

/-!
# Texts whose lower case is in ASCII

Lower case is that of all of Unicode, so a text in ASCII might be the lower case of others than its
own capitals.  One character beyond ASCII has a letter of ASCII for its lower case: the Kelvin sign,
whose lower case is the small k.  No other has, whatever stands around it.

* `mem_lowercase_iff` : the characters of the lower case of a text are those of the lower cases of
  its characters, each in its place;
* `isAscii_lowercase_iff` : **the lower case of a text is in ASCII exactly if the text is, Kelvin
  signs not counting**;
* `lowercase_eq_iff` : **a text in small letters of ASCII and without a k is the lower case of
  nothing but the texts that are equal to it up to the case of ASCII letters.**
-/

namespace FleetQuery

variable {s t before after : List Char} {c d : Char}

/-! ### Characters in their places -/

theorem mem_lowercaseAfter_iff : d ∈ lowercaseAfter before s ↔
    ∃ a c b, s = a ++ c :: b ∧ d ∈ lowercaseBetween (a.reverse ++ before) c b := by
  induction s generalizing before with
  | nil => simp [lowercaseAfter]
  | cons c s ih =>
    have hcons : lowercaseAfter before (c :: s) =
        lowercaseBetween before c s ++ lowercaseAfter (c :: before) s := rfl
    rw [hcons, List.mem_append, ih]
    constructor
    · rintro (hd | ⟨a, c', b, rfl, hd⟩)
      · exact ⟨[], c, s, rfl, hd⟩
      · exact ⟨c :: a, c', b, rfl, by simpa using hd⟩
    · rintro ⟨a, c', b, hs, hd⟩
      obtain - | ⟨c'', a⟩ := a
      · obtain ⟨rfl, rfl⟩ := List.cons.inj hs
        exact .inl hd
      · obtain ⟨rfl, rfl⟩ := List.cons.inj hs
        exact .inr ⟨a, c', b, rfl, by simpa using hd⟩

/-- **The characters of a lower case are those of the lower cases of the characters**, each in its
place. -/
theorem mem_lowercase_iff : d ∈ lowercase s ↔
    ∃ a c b, s = a ++ c :: b ∧ d ∈ lowercaseBetween a.reverse c b := by
  simp only [lowercase, mem_lowercaseAfter_iff, List.append_nil]

/-! ### Characters beyond ASCII -/

/-- The Kelvin sign, whose lower case is a small k. -/
def kelvin : Char := '\u212a'

/-- All of a block is mapped to characters beyond ASCII, the Kelvin sign apart. -/
theorem lowercaseBlocks_beyond :
    lowercaseBlocks.all (fun (first, last, _, image) =>
      (first == 0x212A && last == 0x212A) || (128 ≤ image && (image + (last - first) < 0xD800 ||
        (0xDFFF < image && image + (last - first) < 0x110000)))) = true := by
  decide +kernel

/-- What a code point is mapped to: itself, k, or a character beyond ASCII. -/
theorem lowercaseCodePoint_cases (n : Nat) :
    lowercaseCodePoint n = n ∨ n = 0x212A ∨
      128 ≤ lowercaseCodePoint n ∧ (lowercaseCodePoint n).isValidChar := by
  rw [lowercaseCodePoint]
  cases hfind : lowercaseBlocks.find? fun (first, last, step, _) =>
      first ≤ n && n ≤ last && (n - first) % step == 0 with
  | none => exact .inl rfl
  | some b =>
    obtain ⟨first, last, step, image⟩ := b
    have hin := List.find?_some hfind
    have hbeyond := List.all_eq_true.mp lowercaseBlocks_beyond _ (List.mem_of_find?_eq_some hfind)
    simp only [Bool.and_eq_true, Bool.or_eq_true, beq_iff_eq, decide_eq_true_eq] at hin hbeyond
    rcases hbeyond with ⟨hfirst, hlast⟩ | ⟨himage, hvalid⟩
    · exact .inr (.inl (by omega))
    · refine .inr (.inr ⟨by dsimp only; omega, ?_⟩)
      dsimp only
      rw [Nat.isValidChar]
      omega

theorem le_toNat_lowercaseCodePoint (hc : 128 ≤ c.toNat) (hkelvin : c ≠ kelvin) :
    128 ≤ (Char.ofNat (lowercaseCodePoint c.toNat)).toNat := by
  rcases lowercaseCodePoint_cases c.toNat with hsame | hc' | ⟨hle, hvalid⟩
  · rwa [hsame, Char.ofNat_toNat]
  · exact absurd (Char.toNat_inj.mp hc') hkelvin
  · rw [Char.ofNat, dif_pos hvalid]
    exact hle

theorem lowercaseBetween_kelvin (before after : List Char) :
    lowercaseBetween before kelvin after = ['k'] := by
  rw [lowercaseBetween, if_neg (by decide)]
  decide +kernel

theorem not_isAscii_lowercaseBetween (hc : 128 ≤ c.toNat) (hkelvin : c ≠ kelvin) :
    ¬ IsAscii (lowercaseBetween before c after) := by
  intro hascii
  rw [lowercaseBetween, lowercaseChar, if_neg (Nat.not_lt.mpr hc)] at hascii
  split_ifs at hascii with hsigma hend hdotted
  -- the two small sigmas, the dot of a capital I, and what the blocks say
  · exact absurd (hascii _ List.mem_cons_self) (by decide)
  · exact absurd (hascii _ List.mem_cons_self) (by decide)
  · exact absurd (hascii '\u0307' (by simp)) (by decide)
  · have hle := le_toNat_lowercaseCodePoint hc hkelvin
    have hlt := hascii _ List.mem_cons_self
    omega

/-- **Whatever stands around a character, its lower case is in ASCII only if the character is**, but
for the Kelvin sign. -/
theorem isAscii_lowercaseBetween_iff (before after : List Char) :
    IsAscii (lowercaseBetween before c after) ↔ c.toNat < 128 ∨ c = kelvin := by
  constructor
  · intro hascii
    by_contra hother
    obtain ⟨hc, hkelvin⟩ := not_or.mp hother
    exact not_isAscii_lowercaseBetween (Nat.le_of_not_lt hc) hkelvin hascii
  · rintro (hc | rfl)
    · rw [lowercaseBetween_of_lt hc]
      intro d hd
      rw [List.mem_singleton.mp hd, toNat_toLower]
      split_ifs <;> omega
    · rw [lowercaseBetween_kelvin]
      decide

/-! ### Texts -/

/-- **The lower case of a text is in ASCII exactly if the text is**, Kelvin signs not counting. -/
theorem isAscii_lowercase_iff :
    IsAscii (lowercase s) ↔ ∀ c ∈ s, c.toNat < 128 ∨ c = kelvin := by
  constructor
  · intro h c hc
    obtain ⟨a, b, rfl⟩ := List.append_of_mem hc
    rw [← isAscii_lowercaseBetween_iff a.reverse b]
    exact fun d hd => h d (mem_lowercase_iff.mpr ⟨a, c, b, rfl, hd⟩)
  · intro h d hd
    obtain ⟨a, c, b, rfl, hplace⟩ := mem_lowercase_iff.mp hd
    exact (isAscii_lowercaseBetween_iff a.reverse b).mpr (h c (by simp)) d hplace

theorem k_mem_lowercase (h : kelvin ∈ s) : 'k' ∈ lowercase s := by
  obtain ⟨a, b, rfl⟩ := List.append_of_mem h
  refine mem_lowercase_iff.mpr ⟨a, kelvin, b, rfl, ?_⟩
  rw [lowercaseBetween_kelvin]
  exact List.mem_cons_self

theorem isAscii_of_lowercase (h : IsAscii (lowercase s)) (hk : 'k' ∉ lowercase s) : IsAscii s := by
  intro c hc
  rcases isAscii_lowercase_iff.mp h c hc with hlt | rfl
  · exact hlt
  · exact absurd (k_mem_lowercase hc) hk

/-- **A text in small letters of ASCII and without a k is the lower case of no texts but those that
are equal to it up to the case of ASCII letters.** -/
theorem lowercase_eq_iff (ht : IsAscii t) (hsmall : lowercase t = t) (hk : 'k' ∉ t) :
    lowercase s = t ↔ List.Forall₂ SameLetter s t := by
  constructor
  · intro h
    have hs : IsAscii s := isAscii_of_lowercase (h.symm ▸ ht) (h.symm ▸ hk)
    have hmap : s.map Char.toLower = t.map Char.toLower := by
      rw [← lowercase_eq_map hs, ← lowercase_eq_map ht, h, hsmall]
    rw [← List.forall₂_eq_eq_eq, List.forall₂_map_left_iff, List.forall₂_map_right_iff] at hmap
    exact hmap.imp fun _ _ hcd => sameLetter_iff.mpr hcd
  · intro h
    rw [lowercase_eq_of_sameLetters h, hsmall]

end FleetQuery
