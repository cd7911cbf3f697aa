import FleetQuery.Match.Live
import FleetQuery.Proofs.Text.Lowercase

/-!
# Texts like a pattern

A text is like a pattern if the lower case of the pattern stands in the lower case of the text.
Both are put in lower case on their own, so what stands around the pattern in the text counts for
the one and not for the other.

* `like_refl`, `like_trans` : being like one another is a preorder on texts;
* `like_of_occurs` : **a text is like a pattern that stands in it, provided the capital sigmas of
  the pattern end words there as they do in the pattern alone**; elsewhere the lower case of the
  pattern does not stand at that place;
* `findsLike_of_infix` : a pattern without capital sigmas is found wherever it stands;
* `like_of_occurs_openSigma` : a capital sigma that ends the pattern, but no word of the text;
* `like_of_recased` : **the case of ASCII letters does not matter**, neither in texts nor in
  patterns;
* `like_iff_sameLetters` : in ASCII, a text is like a pattern exactly if at some place its
  characters are those of the pattern up to case.
-/

namespace FleetQuery

variable {v v' p p' q : String} {a b : List Char} {values values' : List String}

theorem like_iff : like v p = true ↔ lowercase p.toList <:+: lowercase v.toList := contains_iff

theorem like_refl (v : String) : like v v = true := like_iff.mpr (List.infix_refl _)

theorem like_trans (hv : like v p = true) (hp : like p q = true) : like v q = true :=
  like_iff.mpr ((like_iff.mp hp).trans (like_iff.mp hv))

/-! ### Patterns that stand in the text -/

/-- The pattern is found in the text by every comparison without regard to case. -/
structure FindsLike (value pattern : String) : Prop where
  /-- The text is like the pattern. -/
  like : FleetQuery.like value pattern = true
  /-- A text compared with `~`. -/
  text : compareText value .like pattern = .ok true
  /-- A text compared with `!~`. -/
  notText : compareText value .notLike pattern = .ok false
  /-- Several texts with this one among them, compared with `~`. -/
  texts : ∀ values, value ∈ values → compareTexts values .like pattern = .ok true

theorem findsLike_of_like (h : like v p = true) : FindsLike v p where
  like := h
  text := by rw [compareText, h]
  notText := by rw [compareText, h, Bool.not_true]
  texts := by
    intro values hv
    rw [compareTexts, List.any_eq_true.mpr ⟨v, hv, h⟩]

/-- At a place where the pattern stands, its lower case stands in lower case exactly if the capital
sigmas of the pattern end words alike. -/
theorem lowercase_prefix_iff (a p b : List Char) :
    lowercaseWithin [] a (p ++ b) ++ lowercase p <+: lowercase (a ++ (p ++ b)) ↔
      SameSigmas a p b := by
  rw [lowercase_append_append, List.prefix_append_right_inj, ← lowercaseWithin_eq_lowercase_iff]
  have hlength : (lowercaseWithin a.reverse p b).length = (lowercase p).length := by
    rw [lowercase, ← lowercaseWithin_nil]
    exact length_lowercaseWithin ..
  -- both stand at the beginning of one text, so they are equal if they are of one length
  constructor
  · intro h
    have hle := Nat.le_of_eq hlength
    have hprefix := List.prefix_of_prefix_length_le (List.prefix_append _ _) h hle
    exact hprefix.eq_of_length hlength
  · intro h
    rw [h]
    exact List.prefix_append _ _

theorem like_of_sameSigmas (h : v.toList = a ++ (p.toList ++ b))
    (hsigmas : SameSigmas a p.toList b) : like v p = true := by
  rw [like_iff, h]
  have hplace := (lowercase_prefix_iff a p.toList b).mpr hsigmas
  exact (List.suffix_append _ _).isInfix.trans hplace.isInfix

theorem findsLike_of_infix (hp : 'Σ' ∉ p.toList) (h : p.toList <:+: v.toList) : FindsLike v p := by
  obtain ⟨a, b, hab⟩ := h
  rw [List.append_assoc] at hab
  exact findsLike_of_like (like_of_sameSigmas hab.symm (sameSigmas_of_not_mem hp a b))

/-- **A text is like a pattern that stands in it**, provided the capital sigmas of the pattern end
words there as they do in the pattern alone.  Exactly then does the lower case of the pattern stand
at the place of the pattern. -/
theorem like_of_occurs (h : v.toList = a ++ (p.toList ++ b)) :
    (lowercaseWithin [] a (p.toList ++ b) ++ lowercase p.toList <+: lowercase v.toList ↔
        SameSigmas a p.toList b) ∧
      (SameSigmas a p.toList b → FindsLike v p) := by
  constructor
  · rw [h]
    exact lowercase_prefix_iff a p.toList b
  · intro hsigmas
    exact findsLike_of_like (like_of_sameSigmas h hsigmas)

/-- The pattern stands twice in the text, and only the second time its sigma ends a word. -/
theorem like_of_occurs_finalSigma :
    ¬ SameSigmas [] "ΑΣ".toList "Α ΑΣ, 7".toList ∧
      SameSigmas "ΑΣΑ ".toList "ΑΣ".toList ", 7".toList ∧ FindsLike "ΑΣΑ ΑΣ, 7" "ΑΣ" := by
  have hfinal : SameSigmas "ΑΣΑ ".toList "ΑΣ".toList ", 7".toList := by decide +kernel
  have hoccurs : "ΑΣΑ ΑΣ, 7".toList = "ΑΣΑ ".toList ++ ("ΑΣ".toList ++ ", 7".toList) := by
    decide +kernel
  exact ⟨by decide +kernel, hfinal, (like_of_occurs hoccurs).2 hfinal⟩

/-- A capital sigma that ends the pattern, but no word of the text. -/
theorem like_of_occurs_openSigma :
    "ΑΣ".toList <:+: "ΑΣΑ".toList ∧ like "ΑΣΑ" "ΑΣ" = false ∧
      compareText "ΑΣΑ" .like "ΑΣ" = .ok false ∧ compareText "ΑΣΑ" .notLike "ΑΣ" = .ok true ∧
      compareTexts ["ΑΣΑ"] .like "ΑΣ" = .ok false := by
  decide +kernel

/-! ### Case of ASCII letters -/

/-- The texts differ in the case of ASCII letters only. -/
def Recased (v v' : String) : Prop := List.Forall₂ SameLetter v.toList v'.toList

instance : Decidable (Recased v v') :=
  inferInstanceAs (Decidable (List.Forall₂ SameLetter v.toList v'.toList))

/-- **The case of ASCII letters does not matter**, neither in the text nor in the pattern. -/
theorem like_of_recased (hv : Recased v v') (hp : Recased p p') : like v p = like v' p' := by
  rw [like, like, lowercase_eq_of_sameLetters hv, lowercase_eq_of_sameLetters hp]

theorem compareText_of_recased {op : Operator} (hop : op ∈ [.like, .notLike])
    (hv : Recased v v') (hp : Recased p p') : compareText v op p = compareText v' op p' := by
  simp only [List.mem_cons, List.not_mem_nil, or_false] at hop
  rcases hop with rfl | rfl <;> rw [compareText, compareText, like_of_recased hv hp]

theorem compareTexts_of_recased (hvalues : List.Forall₂ Recased values values')
    (hp : Recased p p') : compareTexts values .like p = compareTexts values' .like p' := by
  have hany : (values.any fun v => like v p) = values'.any fun v => like v p' := by
    induction hvalues with
    | nil => rfl
    | cons hv hvalues ih => rw [List.any_cons, List.any_cons, like_of_recased hv hp, ih]
  rw [compareTexts, compareTexts, hany]

/-- In ASCII, the lower case of a text stands in that of another exactly if at some place the
characters are those of the text up to case. -/
theorem lowercase_infix_iff {s t : List Char} (hs : IsAscii s) (ht : IsAscii t) :
    lowercase t <:+: lowercase s ↔
      ∃ i, ∃ _ : i + t.length ≤ s.length, ∀ j (_ : j < t.length), SameLetter s[i + j] t[j] := by
  rw [lowercase_eq_map hs, lowercase_eq_map ht, List.infix_iff_getElem?]
  simp only [List.length_map, List.getElem_map, sameLetter_iff]
  refine exists_congr fun i => ?_
  constructor
  · rintro ⟨hi, h⟩
    refine ⟨by omega, fun j hj => ?_⟩
    have hj' := h j hj
    rw [List.getElem?_eq_getElem (by simp; omega), List.getElem_map, Option.some.injEq] at hj'
    simpa only [Nat.add_comm] using hj'
  · rintro ⟨hi, h⟩
    refine ⟨by omega, fun j hj => ?_⟩
    rw [List.getElem?_eq_getElem (by simp; omega), List.getElem_map, Option.some.injEq]
    simpa only [Nat.add_comm] using h j hj

/-- **In ASCII, a text is like a pattern exactly if at some place its characters are those of the
pattern up to case**, so no comparison without regard to case depends on the case of a text or a
pattern. -/
theorem like_iff_sameLetters (hv : IsAscii v.toList) (hp : IsAscii p.toList) :
    (like v p = true ↔
        ∃ i, ∃ _ : i + p.toList.length ≤ v.toList.length,
          ∀ j (_ : j < p.toList.length), SameLetter v.toList[i + j] p.toList[j]) ∧
      ∀ v' p', Recased v v' → Recased p p' →
        like v p = like v' p' ∧
          (∀ op ∈ [.like, .notLike], compareText v op p = compareText v' op p') ∧
          ∀ values values', List.Forall₂ Recased values values' →
            compareTexts values .like p = compareTexts values' .like p' := by
  refine ⟨like_iff.trans (lowercase_infix_iff hv hp), fun v' p' hvv' hpp' => ⟨?_, ?_, ?_⟩⟩
  · exact like_of_recased hvv' hpp'
  · exact fun op hop => compareText_of_recased hop hvv' hpp'
  · exact fun values values' hvalues => compareTexts_of_recased hvalues hpp'

/-- A pattern that is found in spite of its case. -/
theorem like_iff_sameLetters_nginx :
    like "Web/NGINX:1" "nginx" = true ∧ like "wEB/nginx:1" "NGINX" = true := by
  have h := like_iff_sameLetters (v := "Web/NGINX:1") (p := "nginx") (by decide) (by decide)
  have hfound : like "Web/NGINX:1" "nginx" = true := h.1.mpr ⟨4, by decide, by decide⟩
  have hrecased := h.2 "wEB/nginx:1" "NGINX" (by decide) (by decide)
  exact ⟨hfound, hrecased.1 ▸ hfound⟩

end FleetQuery
