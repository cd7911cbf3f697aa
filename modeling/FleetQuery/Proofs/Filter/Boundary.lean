import FleetQuery.Proofs.Filter.Grammar

/-!
# Derivations with another rest

A derivation looks at the text that it leaves only to see that its last token ends there.  It can
therefore go on with any other text at which a token ends:

* `Boundary s` : whatever token stands before `s`, it does not reach into `s`;
* `Phrase schema k x t` : the nonterminal `k` derives the text `x` before every boundary;
* `Derives.phrase` : **what a derivation takes off the front of a text is a phrase**.

The end of a text is a boundary, and so are the closing parenthesis and the symbols `&` and `|`
behind blanks.
-/

namespace FleetQuery

variable {schema : Schema} {s m m' t u : List Char}

/-! ### Boundaries -/

/-- Whatever token stands before `s`, it ends there. -/
structure Boundary (s : List Char) : Prop where
  /-- No field name goes on. -/
  field : ∀ c ∈ s.head?, isFieldChar c = false
  /-- No bare pattern goes on. -/
  bare : ∀ c ∈ s.head?, isBareChar c = false
  /-- No field has its operator here. -/
  operator : NoOperator (skipBlanks s)

theorem isWhiteSpace_eq_false_of_isFieldChar {c : Char} (h : isFieldChar c = true) :
    isWhiteSpace c = false := by
  have hrange : 45 ≤ c.toNat ∧ c.toNat ≤ 122 := by
    simp only [isFieldChar, isFieldStart, Bool.or_eq_true, Bool.and_eq_true, decide_eq_true_eq,
      beq_iff_eq, Char.le_def, UInt32.le_iff_toNat_le] at h
    rcases h with (((((h | h) | rfl) | h) | rfl) | rfl) | rfl
    · exact ⟨le_trans (by decide) h.1, le_trans h.2 (by decide)⟩
    · exact ⟨le_trans (by decide) h.1, le_trans h.2 (by decide)⟩
    · decide
    · exact ⟨le_trans (by decide) h.1, le_trans h.2 (by decide)⟩
    all_goals decide
  by_contra hc
  simp only [isWhiteSpace, Bool.not_eq_false, Bool.or_eq_true, Bool.and_eq_true, decide_eq_true_eq,
    beq_iff_eq] at hc
  omega

theorem isFieldChar_eq_false_of_isWhiteSpace {c : Char} (h : isWhiteSpace c = true) :
    isFieldChar c = false := by
  by_contra hc
  rw [isWhiteSpace_eq_false_of_isFieldChar (by simpa using hc)] at h
  cases h

theorem isFieldChar_eq_false_of_isBlank {c : Char} (h : isBlank c = true) :
    isFieldChar c = false := isFieldChar_eq_false_of_isWhiteSpace (isWhiteSpace_of_isBlank h)

theorem noOperator_cons_of_isWhiteSpace {c : Char} (h : isWhiteSpace c = true) :
    NoOperator (c :: s) := by
  intro op hop hp
  obtain ⟨u, hu⟩ := hp
  rw [Operator.symbol_toList] at hu
  cases op <;> first | exact hop rfl | (cases hu; exact absurd h (by decide))

/-- Skipping only some of the blanks does not bring up an operator either. -/
theorem Boundary.noOperator (h : Boundary s) (ht : Padded s t) : NoOperator t := by
  obtain - | ⟨c, t⟩ := t
  · exact operator?_eq_none_iff.1 rfl
  · cases hc : isBlank c with
    | true => exact noOperator_cons_of_isWhiteSpace (isWhiteSpace_of_isBlank hc)
    | false => exact (padded_cons_iff hc).1 ht ▸ h.operator

theorem boundary_of_forall_isWhiteSpace (h : ∀ c ∈ s, isWhiteSpace c = true) : Boundary s := by
  have hfirst : ∀ c ∈ s.head?, isWhiteSpace c = true := fun c hc => h c (List.mem_of_mem_head? hc)
  refine ⟨fun c hc => isFieldChar_eq_false_of_isWhiteSpace (hfirst c hc), fun c hc => ?_, ?_⟩
  · simp [isBareChar, hfirst c hc]
  · cases hs : skipBlanks s with
    | nil => exact operator?_eq_none_iff.1 rfl
    | cons c t =>
      exact noOperator_cons_of_isWhiteSpace (forall_isWhiteSpace_skipBlanks.2 h c (by simp [hs]))

theorem boundary_nil : Boundary [] := boundary_of_forall_isWhiteSpace (by simp)

theorem isFieldChar_head?_blanks {w : List Char} (hw : ∀ c ∈ w, isBlank c = true)
    (hs : ∀ c ∈ s.head?, isFieldChar c = false) : ∀ c ∈ (w ++ s).head?, isFieldChar c = false :=
  head?_blanks_append (P := fun c => isFieldChar c = false) hw
    (fun _ => isFieldChar_eq_false_of_isBlank) hs

/-- A character that no token goes on with ends the token before, also behind blanks. -/
theorem boundary_of_stop {c : Char} (h : Padded s (c :: t)) (hblank : isBlank c = false)
    (hfield : isFieldChar c = false) (hbare : isBareChar c = false) (hop : NoOperator (c :: t)) :
    Boundary s := by
  have hskip : NoOperator (skipBlanks s) := (padded_cons_iff hblank).1 h ▸ hop
  obtain ⟨w, hw, rfl⟩ := h
  refine ⟨isFieldChar_head?_blanks hw ?_, ?_, hskip⟩
  · rintro _ ⟨⟩
    exact hfield
  · refine head?_blanks_append (P := fun x => isBareChar x = false) hw
      (fun _ => isBareChar_eq_false_of_isBlank) ?_
    rintro _ ⟨⟩
    exact hbare

/-- The symbols that begin no operand end the token before, also behind blanks. -/
theorem boundary_of_padded {c : Char} (h : Padded s (c :: t))
    (hc : c = ')' ∨ c = '|' ∨ c = '&') : Boundary s := by
  have hop : NoOperator (c :: t) := by
    rcases hc with rfl | rfl | rfl <;> exact operator?_eq_none_iff.1 rfl
  refine boundary_of_stop h ?_ ?_ ?_ hop <;> rcases hc with rfl | rfl | rfl <;> decide

theorem boundary_of_link {k : Chain} (h : Padded s (k.symbol :: t)) : Boundary s := by
  refine boundary_of_padded h ?_
  cases k <;> simp [Chain.symbol]

theorem boundary_of_isWhiteSpace {c : Char} (h : Padded s (c :: t)) (hblank : isBlank c = false)
    (hc : isWhiteSpace c = true) : Boundary s :=
  boundary_of_stop h hblank (isFieldChar_eq_false_of_isWhiteSpace hc) (by simp [isBareChar, hc])
    (noOperator_cons_of_isWhiteSpace hc)

/-! ### Tokens before another rest -/

theorem head?_append_append {x : List Char} (hx : x ≠ []) (w m m' : List Char) :
    (w ++ (x ++ m')).head? = (w ++ (x ++ m)).head? := by
  obtain ⟨c, x, rfl⟩ := List.exists_cons_of_ne_nil hx
  cases w <;> rfl

theorem Operator.symbol_toList_ne_nil {op : Operator} (h : op ≠ .is) : op.symbol.toList ≠ [] :=
  fun hnil => h (symbol_toList_injective hnil)

theorem Operator.length_symbol_le {op : Operator} (h : op ≠ .is) (op' : Operator) :
    op'.symbol.toList.length ≤ op.symbol.toList.length + 1 := by
  have hpos := List.length_pos_iff.2 (symbol_toList_ne_nil h)
  have htwo : op'.symbol.toList.length ≤ 2 := by cases op' <;> decide
  omega

theorem IsFieldName.of_head? (h : IsFieldName u m) (hm : m'.head? = m.head?) : IsFieldName u m' :=
  ⟨h.1, h.2.1, hm ▸ h.2.2⟩

/-- Symbols differ in length by one character at most, so that only one character after a symbol
matters. -/
theorem IsOperator.of_head? {op : Operator} (h : IsOperator op m) (hm : m'.head? = m.head?) :
    IsOperator op m' := by
  refine ⟨h.1, fun op' hp => h.2 op' ?_⟩
  obtain - | ⟨c, m'⟩ := m'
  · rwa [List.head?_eq_none_iff.1 hm.symm]
  · obtain ⟨m, rfl⟩ := List.head?_eq_some_iff.1 hm.symm
    have hc : ∀ l, op.symbol.toList ++ [c] <+: op.symbol.toList ++ c :: l := fun l =>
      (List.prefix_append_right_inj _).2 (List.prefix_append [c] l)
    have hlength : op'.symbol.toList.length ≤ (op.symbol.toList ++ [c]).length := by
      simpa using Operator.length_symbol_le h.1 op'
    exact (List.prefix_of_prefix_length_le hp (hc m') hlength).trans (hc m)

theorem IsPattern.phrase {p : List Char} (h : IsPattern s p m) :
    ∃ x, x ≠ [] ∧ s = x ++ m ∧ ∀ m', Boundary m' → IsPattern (x ++ m') p m' := by
  cases h with
  | @quoted q _ _ hq hp =>
    exact ⟨q :: p ++ [q], by simp, by simp, fun m' _ => by simpa using IsPattern.quoted hq hp⟩
  | @bare c p _ hsingle hdouble hrun =>
    exact ⟨c :: p, by simp, rfl, fun m' hm' => .bare hsingle hdouble ⟨hrun.1, hm'.bare⟩⟩

theorem IsComparison.phrase {c : Comparison} (h : IsComparison schema s c m) :
    ∃ x, s = x ++ m ∧ ∀ m', Boundary m' → IsComparison schema (x ++ m') c m' := by
  cases h with
  | @test name _ _ _ hname _ hresolve hallows =>
    exact ⟨name, rfl, fun m' hm' => .test ⟨hname.1, hname.2.1, hm'.field⟩
      (fun t ht => hm'.noOperator ht) hresolve hallows⟩
  | @compare name _ _ _ p _ op field rule hname hsym hop hpad hpattern hresolve hallows =>
    obtain ⟨w, hw, rfl⟩ := hsym
    obtain ⟨w', hw', rfl⟩ := hpad
    obtain ⟨x, hx, rfl, hpattern'⟩ := hpattern.phrase
    refine ⟨name ++ (w ++ (op.symbol.toList ++ (w' ++ x))), by simp, fun m' hm' => ?_⟩
    -- neither the symbol nor the pattern is empty, so the token before each sees no change
    have hop' := hop.of_head? (head?_append_append hx w' m m')
    have hname' := hname.of_head? (head?_append_append (Operator.symbol_toList_ne_nil hop.1) w
      (w' ++ (x ++ m)) (w' ++ (x ++ m')))
    have := IsComparison.compare hname' ⟨w, hw, rfl⟩ hop' ⟨w', hw', rfl⟩ (hpattern' m' hm') hresolve
      hallows
    simpa using this

/-! ### Phrases -/

variable {k : Nonterminal} {j : Chain} {tree l r : ParseTree} {w x y : List Char}

/-- The nonterminal derives the text `x` with a tree, before every boundary. -/
def Phrase (schema : Schema) (k : Nonterminal) (x : List Char) (tree : ParseTree) : Prop :=
  ∀ m, Boundary m → Derives schema k (x ++ m) tree m

namespace Phrase

theorem first (h : Phrase schema j.operand x tree) : Phrase schema (.chain j) x tree :=
  fun m hm => .first (h m hm)

theorem plain (h : Phrase schema .atom x tree) : Phrase schema .not x tree :=
  fun m hm => .plain (h m hm)

theorem operand (h : Phrase schema .not x tree) : Phrase schema j.operand x tree := by
  cases j with
  | and => exact h
  | or => exact first (j := .and) h

theorem disjunction (h : Phrase schema (.chain j) x tree) : Phrase schema (.chain .or) x tree := by
  cases j with
  | and => exact first (j := .or) h
  | or => exact h

theorem link (hl : Phrase schema (.chain j) x l) (hw : ∀ c ∈ w, isBlank c = true)
    (hr : Phrase schema j.operand y r) :
    Phrase schema (.chain j) (x ++ (w ++ j.symbol :: y)) (.link j l r) := by
  intro m hm
  have hsym : Padded (w ++ j.symbol :: (y ++ m)) (j.symbol :: (y ++ m)) := ⟨w, hw, rfl⟩
  simpa using Derives.link (hl _ (boundary_of_link hsym)) hsym (hr m hm)

theorem negation (hw : ∀ c ∈ w, isBlank c = true) (h : Phrase schema .not x tree) :
    Phrase schema .not (w ++ '!' :: x) (.not tree) := by
  intro m hm
  simpa using Derives.negation ⟨w, hw, rfl⟩ (h m hm)

theorem group (hw : ∀ c ∈ w, isBlank c = true) (h : Phrase schema (.chain .or) x tree)
    (hy : ∀ c ∈ y, isBlank c = true) :
    Phrase schema .atom (w ++ '(' :: (x ++ (y ++ [')']))) (.group tree) := by
  intro m _
  have hclose : Padded (y ++ ')' :: m) (')' :: m) := ⟨y, hy, rfl⟩
  simpa using Derives.group ⟨w, hw, rfl⟩ (h _ (boundary_of_padded hclose (by simp))) hclose

theorem sentence_append (h : Phrase schema (.chain .or) x tree)
    (hw : ∀ c ∈ w, isWhiteSpace c = true) :
    Sentence schema (x ++ w) tree := ⟨w, h w (boundary_of_forall_isWhiteSpace hw), hw⟩

theorem sentence (h : Phrase schema (.chain .or) x tree) : Sentence schema x tree := by
  simpa using h.sentence_append (w := []) (by simp)

end Phrase

/-- **What a derivation takes off the front of a text is a phrase.** -/
theorem Derives.phrase (h : Derives schema k s tree m) :
    ∃ x, s = x ++ m ∧ Phrase schema k x tree := by
  induction h with
  | first _ ih =>
    obtain ⟨x, hs, h⟩ := ih
    exact ⟨x, hs, h.first⟩
  | plain _ ih =>
    obtain ⟨x, hs, h⟩ := ih
    exact ⟨x, hs, h.plain⟩
  | link _ hsym _ ihl ihr =>
    obtain ⟨x, rfl, hl⟩ := ihl
    obtain ⟨y, rfl, hr⟩ := ihr
    obtain ⟨w, hw, rfl⟩ := hsym
    exact ⟨_, by simp, hl.link hw hr⟩
  | negation hsym _ ih =>
    obtain ⟨x, rfl, h⟩ := ih
    obtain ⟨w, hw, rfl⟩ := hsym
    exact ⟨_, by simp, h.negation hw⟩
  | group hopen _ hclose ih =>
    obtain ⟨x, rfl, h⟩ := ih
    obtain ⟨y, hy, rfl⟩ := hclose
    obtain ⟨w, hw, rfl⟩ := hopen
    exact ⟨_, by simp, h.group hw hy⟩
  | comparison hpad h =>
    obtain ⟨x, rfl, h'⟩ := h.phrase
    obtain ⟨w, hw, rfl⟩ := hpad
    exact ⟨w ++ x, by simp, fun m hm => .comparison ⟨w, hw, by simp⟩ (h' m hm)⟩

theorem Derives.suffix (h : Derives schema k s tree m) : m <:+ s := by
  obtain ⟨x, rfl, -⟩ := h.phrase
  exact List.suffix_append x m

end FleetQuery
