import FleetQuery.Filter.Token
import FleetQuery.Proofs.Text.Run

/-!
# What the token readers read

Every token of a filter is described here as a piece of text, without reference to the function
that reads it:

* `NotNext c s` : no token that begins with `c` comes next in `s`;
* `IsFieldName`, `IsOperator`, `IsPattern` : a field name, an operator and a pattern, each with
  the text that follows it.  A field name and a bare pattern are longest runs, and an operator is
  the longest symbol that stands there.

The readers find exactly these tokens: `fieldName?_eq_some_iff`, `operator?_eq_some_iff`,
`operator?_eq_none_iff` and `pattern_eq_ok_iff`; where no pattern is found, `pattern_eq_error` says
what is missed and where.
-/

namespace FleetQuery

variable {s t u v rest : List Char}

/-! ### Symbols -/

/-- The next token, if there is one, does not begin with `c`. -/
def NotNext (c : Char) (s : List Char) : Prop := ∀ u, skipBlanks s ≠ c :: u

theorem NotNext.congr {c : Char} {s' : List Char} (h : NotNext c s)
    (hs : skipBlanks s' = skipBlanks s) : NotNext c s' := fun u hu => h u (hs ▸ hu)

theorem notNext_of_padded {c d : Char} (h : Padded s (d :: t)) (hd : isBlank d = false)
    (hne : d ≠ c) : NotNext c s := by
  intro u hu
  rw [(padded_cons_iff hd).1 h] at hu
  exact hne (List.cons.inj hu).1

theorem notNext_of_isWhiteSpace {c : Char} (h : ∀ x ∈ s, isWhiteSpace x = true)
    (hc : isWhiteSpace c = false) : NotNext c s := by
  intro u hs
  have := forall_isWhiteSpace_skipBlanks.2 h c (by simp [hs])
  rw [hc] at this
  cases this

/-! ### Field names -/

/-- `name` is the field name at the front of `name ++ rest`. -/
def IsFieldName (name rest : List Char) : Prop :=
  (∃ c ∈ name.head?, isFieldStart c = true) ∧ LongestRun isFieldChar name rest

theorem isFieldChar_of_isFieldStart {c : Char} (h : isFieldStart c = true) :
    isFieldChar c = true := by
  simp [isFieldChar, h]

theorem isBlank_eq_false_of_isFieldStart {c : Char} (h : isFieldStart c = true) :
    isBlank c = false := by
  by_contra hb
  simp only [isBlank, Bool.not_eq_false, Bool.or_eq_true, beq_iff_eq] at hb
  rcases hb with ((rfl | rfl) | rfl) | rfl <;> exact absurd h (by decide)

theorem IsFieldName.exists_cons {name : List Char} (h : IsFieldName name rest) :
    ∃ c cs, name = c :: cs ∧ isFieldStart c = true := by
  obtain ⟨⟨c, hc, hstart⟩, -⟩ := h
  obtain ⟨cs, rfl⟩ := List.head?_eq_some_iff.1 hc
  exact ⟨c, cs, rfl, hstart⟩

theorem fieldName?_eq_some_iff {name : List Char} :
    fieldName? s = some (name, rest) ↔ s = name ++ rest ∧ IsFieldName name rest := by
  constructor
  · intro h
    cases s with
    | nil => cases h
    | cons c s =>
      rw [fieldName?] at h
      split_ifs at h with hc
      obtain ⟨rfl, rfl⟩ := Prod.mk.inj (Option.some.inj h)
      have hrun := longestRun_takeWhile isFieldChar s
      refine ⟨by simp, ⟨c, rfl, hc⟩, ?_, hrun.2⟩
      intro x hx
      rcases List.mem_cons.1 hx with rfl | hx
      · exact isFieldChar_of_isFieldStart hc
      · exact hrun.1 x hx
  · rintro ⟨rfl, h⟩
    obtain ⟨c, cs, rfl, hstart⟩ := h.exists_cons
    have hrun : LongestRun isFieldChar cs rest :=
      ⟨fun x hx => h.2.1 x (List.mem_cons_of_mem c hx), h.2.2⟩
    simp only [List.cons_append, fieldName?, hstart, ↓reduceIte, hrun.takeWhile_eq,
      hrun.dropWhile_eq]

/-! ### Operators -/

/-- `op` is the operator at the front of its symbol and `rest`: no longer symbol stands there. -/
def IsOperator (op : Operator) (rest : List Char) : Prop :=
  op ≠ .is ∧ ∀ op' : Operator, op'.symbol.toList <+: op.symbol.toList ++ rest →
    op'.symbol.toList.length ≤ op.symbol.toList.length

/-- No operator symbol stands at the front of a text. -/
def NoOperator (s : List Char) : Prop :=
  ∀ op : Operator, op ≠ .is → ¬ op.symbol.toList <+: s

theorem Operator.symbol_toList (op : Operator) :
    op.symbol.toList =
      match op with
      | .is => []
      | .eq => ['=']
      | .neq => ['!', '=']
      | .like => ['~']
      | .notLike => ['!', '~']
      | .gt => ['>']
      | .gte => ['>', '=']
      | .lt => ['<']
      | .lte => ['<', '='] := by
  cases op <;> rfl

theorem Operator.symbol_toList_injective {op op' : Operator}
    (h : op.symbol.toList = op'.symbol.toList) : op = op' := by
  simp only [symbol_toList] at h
  cases op <;> cases op' <;> first | rfl | simp at h

theorem padded_symbol_iff {op : Operator} (hop : op ≠ .is) :
    Padded s (op.symbol.toList ++ t) ↔ skipBlanks s = op.symbol.toList ++ t := by
  rw [Operator.symbol_toList]
  cases op with
  | is => exact absurd rfl hop
  | eq | neq | like | notLike | gt | gte | lt | lte => exact padded_cons_iff (by decide)

/-- Whatever `operator?` answers, no longer symbol stands at the front of the text. -/
theorem prefix_of_operator? {op : Operator} (h : operator? s = some (op, rest)) :
    s = op.symbol.toList ++ rest ∧ IsOperator op rest := by
  -- the rows of the table with a symbol of two characters leave no longer one
  have htwo : ∀ op' : Operator, op'.symbol.toList.length ≤ 2 := by
    intro op'
    cases op' <;> decide
  unfold operator? at h
  split at h <;> cases h
  all_goals refine ⟨rfl, by simp, fun op' hp => ?_⟩
  iterate 4 exact htwo op'
  all_goals
    obtain ⟨t, ht⟩ := hp
    simp only [Operator.symbol_toList] at ht ⊢
    cases op' <;> simp_all
  -- what is left is `>=` or `<=` where the row for `>` or `<` was taken
  all_goals rename_i hne; exact hne _ ht.symm

theorem operator?_eq_none_iff : operator? s = none ↔ NoOperator s := by
  constructor
  · intro h op hop hp
    obtain ⟨t, rfl⟩ := hp
    rw [Operator.symbol_toList] at h
    cases op <;> first | exact hop rfl | skip
    all_goals
      simp only [List.cons_append, List.nil_append] at h
      unfold operator? at h
      split at h <;> simp_all
  · intro h
    cases ho : operator? s with
    | none => rfl
    | some r =>
      obtain ⟨op, rest⟩ := r
      obtain ⟨rfl, hop⟩ := prefix_of_operator? ho
      exact absurd (List.prefix_append _ _) (h op hop.1)

theorem operator?_eq_some_iff {op : Operator} :
    operator? s = some (op, rest) ↔ s = op.symbol.toList ++ rest ∧ IsOperator op rest := by
  refine ⟨prefix_of_operator?, ?_⟩
  rintro ⟨rfl, hop⟩
  cases ho : operator? (op.symbol.toList ++ rest) with
  | none => exact absurd (List.prefix_append _ _) (operator?_eq_none_iff.1 ho op hop.1)
  | some r =>
    -- two longest symbols at the front of one text are the same
    obtain ⟨op', rest'⟩ := r
    obtain ⟨hs, hop'⟩ := prefix_of_operator? ho
    have hle := hop.2 op' (hs ▸ List.prefix_append _ _)
    have hge := hop'.2 op (hs ▸ List.prefix_append _ _)
    obtain ⟨hsym, hrest⟩ := List.append_inj hs (le_antisymm hge hle)
    rw [Operator.symbol_toList_injective hsym, hrest]

/-! ### Patterns -/

/-- `s` begins with a pattern that says `p` and goes on with `rest`: a text between two quotes of
one sort, or a longest run of bare characters that does not begin with a quote. -/
inductive IsPattern : List Char → List Char → List Char → Prop
  | quoted {q : Char} {p rest : List Char} :
      q = '\'' ∨ q = '"' → q ∉ p → IsPattern (q :: p ++ q :: rest) p rest
  | bare {c : Char} {p rest : List Char} :
      c ≠ '\'' → c ≠ '"' → LongestRun isBareChar (c :: p) rest →
        IsPattern (c :: p ++ rest) (c :: p) rest

theorem isBareChar_eq_false_of_isBlank {c : Char} (h : isBlank c = true) :
    isBareChar c = false := by
  simp [isBareChar, isWhiteSpace_of_isBlank h]

theorem isBlank_eq_false_of_isBareChar {c : Char} (h : isBareChar c = true) :
    isBlank c = false := by
  by_contra hb
  rw [isBareChar_eq_false_of_isBlank (by simpa using hb)] at h
  cases h

theorem IsPattern.exists_cons {p : List Char} (h : IsPattern s p rest) :
    ∃ c cs, s = c :: cs ∧ isBlank c = false := by
  cases h with
  | quoted hq _ =>
    refine ⟨_, _, rfl, ?_⟩
    rcases hq with rfl | rfl <;> decide
  | bare _ _ hrun =>
    exact ⟨_, _, rfl, isBlank_eq_false_of_isBareChar (hrun.1 _ List.mem_cons_self)⟩

theorem quotedPattern_eq_ok_iff {q : Char} {p : List Char} :
    quotedPattern q s = .ok (p, rest) ↔ s = p ++ q :: rest ∧ q ∉ p := by
  have hrun := longestRun_takeWhile (· != q) s
  constructor
  · intro h
    unfold quotedPattern at h
    split at h
    · rename_i c rest' hd
      obtain ⟨rfl, rfl⟩ := Prod.mk.inj (Except.ok.inj h)
      have hc : q = c := (bne_eq_false_iff_eq.1 (hrun.2 c (by simp [hd]))).symm
      subst hc
      refine ⟨by rw [← hd, List.takeWhile_append_dropWhile], fun hq => ?_⟩
      simpa using hrun.1 q hq
    · cases h
  · rintro ⟨rfl, hq⟩
    have h : LongestRun (· != q) p (q :: rest) := by
      refine ⟨fun c hc => ?_, fun c hc => ?_⟩
      · have : c ≠ q := fun h => hq (h ▸ hc)
        simpa using this
      · cases hc
        simp
    rw [quotedPattern, h.takeWhile_eq, h.dropWhile_eq]

theorem pattern_of_not_quote (h : ∀ c ∈ s.head?, c ≠ '\'' ∧ c ≠ '"') :
    pattern s =
      match s.takeWhile isBareChar with
      | [] => .error ⟨.malformed .expectedValue, s⟩
      | p => .ok (p, s.dropWhile isBareChar) := by
  unfold pattern
  split
  · exact absurd rfl (h _ rfl).1
  · exact absurd rfl (h _ rfl).2
  · rfl

theorem pattern_eq_ok_iff {p : List Char} :
    pattern s = .ok (p, rest) ↔ IsPattern s p rest := by
  constructor
  · intro h
    unfold pattern at h
    split at h
    · obtain ⟨rfl, hq⟩ := quotedPattern_eq_ok_iff.1 h
      exact .quoted (.inl rfl) hq
    · obtain ⟨rfl, hq⟩ := quotedPattern_eq_ok_iff.1 h
      exact .quoted (.inr rfl) hq
    · rename_i hsingle hdouble
      split at h
      · cases h
      · rename_i hne
        obtain ⟨hp, hrest⟩ := Prod.mk.inj (Except.ok.inj h)
        obtain ⟨rfl, hrun⟩ := takeWhile_dropWhile_iff.1 ⟨hp, hrest⟩
        obtain - | ⟨c, p⟩ := p
        · exact absurd hp hne
        · exact .bare (fun hc => hsingle _ (by rw [hc]; rfl))
            (fun hc => hdouble _ (by rw [hc]; rfl)) hrun
  · intro h
    cases h with
    | quoted hq hp =>
      rcases hq with rfl | rfl <;> exact quotedPattern_eq_ok_iff.2 ⟨rfl, hp⟩
    | bare hsingle hdouble hrun =>
      rw [pattern_of_not_quote (by rintro c ⟨⟩; exact ⟨hsingle, hdouble⟩), hrun.takeWhile_eq,
        hrun.dropWhile_eq]

/-- A pattern is missed where it should begin, or it has no closing quote, which is missed at the
end of the text. -/
theorem pattern_eq_error {stop : Stop} (h : pattern s = .error stop) :
    stop = ⟨.malformed .expectedValue, s⟩ ∨ stop = ⟨.malformed .expectedQuote, []⟩ ∧
      ∃ q u, (q = '\'' ∨ q = '"') ∧ q ∉ u ∧ s = q :: u := by
  have hquoted : ∀ {q : Char} {u : List Char}, quotedPattern q u = .error stop →
      stop = ⟨.malformed .expectedQuote, []⟩ ∧ q ∉ u := by
    intro q u h
    unfold quotedPattern at h
    split at h
    · cases h
    · rename_i hnil
      cases h
      exact ⟨rfl, fun hq => by simpa using List.dropWhile_eq_nil_iff.1 hnil q hq⟩
  unfold pattern at h
  split at h
  · obtain ⟨hstop, hu⟩ := hquoted h
    exact .inr ⟨hstop, _, _, .inl rfl, hu, rfl⟩
  · obtain ⟨hstop, hu⟩ := hquoted h
    exact .inr ⟨hstop, _, _, .inr rfl, hu, rfl⟩
  · split at h
    · cases h
      exact .inl rfl
    · cases h

end FleetQuery
