import FleetQuery.Proofs.Filter.Grammar
import FleetQuery.Proofs.Outcome

/-!
# The readers against the grammar

The readers `parseNot` and `parseLinks` find exactly what the grammar derives within the levels
that are free:

* `readersSound` : what a reader finds is derived, and no comparison costs more than the free
  levels;
* `Derives.reads` : what is derived within the free levels is found.

A reader may leave fewer blanks than the derivation does, so the two are compared by what is left
after the blanks.  The readers of chains are compared with the part of the chain that is already
read: with `n` levels free after `i` links, the whole chain may cost `n + i`.
-/

namespace FleetQuery

variable {schema : Schema} {s s' m rest : List Char} {e : Expr} {n : Nat} {k : Chain}

/-! ### Comparisons -/

theorem checkOperator_eq_ok_iff {rule : FieldRule} {name : String} {op : Operator} {u : Unit} :
    checkOperator rule name op s = .ok u ↔ rule.allows op = true := by
  unfold checkOperator
  split_ifs with h <;> simp [h]

theorem checkOperator_of_allows {rule : FieldRule} {op : Operator} (h : rule.allows op = true)
    (name : String) (s : List Char) : checkOperator rule name op s = .ok () :=
  checkOperator_eq_ok_iff.2 h

/-- The comparison that is read stands there; after a field alone, blanks are read too. -/
theorem isComparison_of_comparison (h : comparison schema s = .ok (e, rest)) :
    ∃ c m, e = .leaf c ∧ IsComparison schema s c m ∧ skipBlanks m = skipBlanks rest := by
  unfold comparison at h
  split at h
  · cases h
  · rename_i name after hname
    obtain ⟨rfl, hfield⟩ := fieldName?_eq_some_iff.1 hname
    dsimp only at h
    split at h
    · cases h
    · rename_i field rule hresolve
      split at h
      · rename_i hop
        obtain ⟨_, hcheck, hok⟩ := except_bind_eq_ok.1 h
        cases hok
        have hno : ∀ t, Padded after t → NoOperator t := by
          rintro _ ht op hne ⟨u, rfl⟩
          refine operator?_eq_none_iff.1 hop op hne ?_
          rw [(padded_symbol_iff hne).1 ht]
          exact List.prefix_append _ _
        exact ⟨_, after, rfl, .test hfield hno hresolve (checkOperator_eq_ok_iff.1 hcheck),
          by simp⟩
      · rename_i op after' hop
        obtain ⟨_, hcheck, hok⟩ := except_bind_eq_ok.1 h
        obtain ⟨⟨p, after''⟩, hpattern, hok⟩ := except_bind_eq_ok.1 hok
        cases hok
        obtain ⟨hs, hsym⟩ := operator?_eq_some_iff.1 hop
        exact ⟨_, after'', rfl, .compare hfield (hs ▸ padded_skipBlanks after) hsym
          (padded_skipBlanks after') (pattern_eq_ok_iff.1 hpattern) hresolve
          (checkOperator_eq_ok_iff.1 hcheck), rfl⟩

theorem IsComparison.exists_tokens {c : Comparison} (h : IsComparison schema s c m) :
    ∃ name after rule, fieldName? s = some (name, after) ∧
      schema.resolve? (String.ofList name) = some (c.field, rule) ∧ rule.allows c.op = true ∧
      ((operator? (skipBlanks after) = none ∧ c.op = .is ∧ c.pattern = "" ∧ m = after) ∨
        ∃ after' p, operator? (skipBlanks after) = some (c.op, after') ∧
          pattern (skipBlanks after') = .ok (p, m) ∧ c.pattern = String.ofList p) := by
  cases h with
  | test hfield hno hresolve hallows =>
    exact ⟨_, _, _, fieldName?_eq_some_iff.2 ⟨rfl, hfield⟩, hresolve, hallows,
      .inl ⟨operator?_eq_none_iff.2 (hno _ (padded_skipBlanks m)), rfl, rfl, rfl⟩⟩
  | @compare name after after' u p _ op field rule hfield hsym hop hpad hpattern hresolve hallows =>
    have hskip : skipBlanks after = op.symbol.toList ++ after' := (padded_symbol_iff hop.1).1 hsym
    have hu : skipBlanks after' = u := by
      obtain ⟨x, xs, rfl, hx⟩ := hpattern.exists_cons
      exact (padded_cons_iff hx).1 hpad
    exact ⟨_, _, _, fieldName?_eq_some_iff.2 ⟨rfl, hfield⟩, hresolve, hallows,
      .inr ⟨after', p, operator?_eq_some_iff.2 ⟨hskip, hop⟩, hu ▸ pattern_eq_ok_iff.2 hpattern,
        rfl⟩⟩

theorem IsComparison.reads {c : Comparison} (h : IsComparison schema s c m) :
    ∃ rest, comparison schema s = .ok (.leaf c, rest) ∧ skipBlanks rest = skipBlanks m := by
  obtain ⟨field, op, text⟩ := c
  obtain ⟨name, after, rule, hname, hresolve, hallows, htail⟩ := h.exists_tokens
  have hcheck := checkOperator_of_allows hallows
  dsimp only at hresolve htail hcheck
  rcases htail with ⟨hop, rfl, rfl, rfl⟩ | ⟨after', p, hop, hpattern, rfl⟩
  · refine ⟨skipBlanks m, ?_, skipBlanks_skipBlanks m⟩
    simp only [comparison, hname, hresolve, hop, hcheck]
    rfl
  · refine ⟨m, ?_, rfl⟩
    simp only [comparison, hname, hresolve, hop, hcheck, hpattern]
    rfl

theorem IsComparison.unique {c c' : Comparison} {m' : List Char}
    (h : IsComparison schema s c m) (h' : IsComparison schema s c' m') : c' = c ∧ m' = m := by
  obtain ⟨field, op, text⟩ := c
  obtain ⟨field', op', text'⟩ := c'
  obtain ⟨name, after, rule, hname, hresolve, -, htail⟩ := h.exists_tokens
  obtain ⟨name', after', rule', hname', hresolve', -, htail'⟩ := h'.exists_tokens
  obtain ⟨rfl, rfl⟩ := Prod.mk.inj (Option.some.inj (hname.symm.trans hname'))
  obtain ⟨hfield, -⟩ := Prod.mk.inj (Option.some.inj (hresolve.symm.trans hresolve'))
  dsimp only at hfield htail htail'
  rcases htail with ⟨hop, rfl, rfl, rfl⟩ | ⟨u, p, hop, hpattern, rfl⟩
  · rcases htail' with ⟨-, rfl, rfl, rfl⟩ | ⟨u', p', hop', -, -⟩
    · exact ⟨by rw [hfield], rfl⟩
    · rw [hop] at hop'
      cases hop'
  · rcases htail' with ⟨hop', -, -, -⟩ | ⟨u', p', hop', hpattern', rfl⟩
    · rw [hop] at hop'
      cases hop'
    · obtain ⟨rfl, rfl⟩ := Prod.mk.inj (Option.some.inj (hop.symm.trans hop'))
      obtain ⟨rfl, rfl⟩ := Prod.mk.inj (Except.ok.inj (hpattern.symm.trans hpattern'))
      exact ⟨by rw [hfield], rfl⟩

/-! ### One step of each reader -/

theorem parseNot_negation (h : skipBlanks s = '!' :: s') :
    parseNot schema (n + 1) s = parseNot schema n s' >>= fun r => .ok (.not r.1, r.2) := by
  rw [parseNot, h]
  rfl

theorem parseNot_group (h : skipBlanks s = '(' :: s') :
    parseNot schema (n + 1) s = parseChain schema .or n s' >>= fun r => closeGroup r.1 r.2 := by
  rw [parseNot, h]
  simp only [parseChain, parseOperand, bind_assoc]

theorem parseNot_comparison (hneg : NotNext '!' s) (hgroup : NotNext '(' s) :
    parseNot schema n s = comparison schema (skipBlanks s) := by
  cases n <;>
  · rw [parseNot]
    split
    · rename_i t ht
      exact absurd ht (hneg t)
    · rename_i t ht
      exact absurd ht (hgroup t)
    · rfl

theorem parseLinks_link (h : skipBlanks s = k.symbol :: s') :
    parseLinks schema k (n + 1) e s =
      parseOperand schema k n s' >>= fun r => parseLinks schema k n (k.combine e r.1) r.2 := by
  rw [parseLinks, h]
  dsimp only
  rw [if_pos rfl]
  cases k with
  | and => rfl
  | or => simp only [parseOperand, bind_assoc]

theorem parseLinks_tooDeep (h : skipBlanks s = k.symbol :: s') :
    parseLinks schema k 0 e s = tooDeep s' := by
  rw [parseLinks, h]
  exact if_pos rfl

theorem parseLinks_stop (h : NotNext k.symbol s) : parseLinks schema k n e s = .ok (e, s) := by
  cases n <;>
  · rw [parseLinks]
    split
    · rename_i c t ht
      refine if_neg ?_
      rintro rfl
      exact h t ht
    · rfl

theorem closeGroup_eq_ok_iff {e' : Expr} :
    closeGroup e s = .ok (e', rest) ↔ e = e' ∧ skipBlanks s = ')' :: rest := by
  unfold closeGroup
  split
  · rename_i t ht
    simp [ht]
  · rename_i t ht
    simp only [reduceCtorEq, false_iff, not_and]
    exact fun _ h => ht _ h

/-! ### What is read is derived -/

/-- The nonterminal derives the front of `s` with a tree of the expression `e` and within `n`
levels, and leaves `rest` after blanks. -/
def Finds (schema : Schema) (k : Nonterminal) (n : Nat) (s : List Char) (e : Expr)
    (rest : List Char) : Prop :=
  ∃ t m, Derives schema k s t m ∧ skipBlanks m = skipBlanks rest ∧ t.expr = e ∧ t.Within n

/-- What the readers find with `n` free levels is derived; a chain that already has `i` links may
cost `n + i`. -/
structure ReadersSound (schema : Schema) (n : Nat) : Prop where
  /-- An operand of a conjunction. -/
  not {s rest : List Char} {e : Expr} :
    parseNot schema n s = .ok (e, rest) → Finds schema .not n s e rest
  /-- The further operands of a chain. -/
  links {k : Chain} {s₀ s m rest : List Char} {l : ParseTree} {e : Expr} :
    Derives schema (.chain k) s₀ l m → skipBlanks m = skipBlanks s → l.Within (n + l.links k) →
      parseLinks schema k n l.expr s = .ok (e, rest) →
      Finds schema (.chain k) (n + l.links k) s₀ e rest

namespace ReadersSound

theorem chain_of_operand (H : ReadersSound schema n)
    (hoperand : ∀ {e rest}, parseOperand schema k n s = .ok (e, rest) →
      Finds schema k.operand n s e rest)
    (h : parseChain schema k n s = .ok (e, rest)) : Finds schema (.chain k) n s e rest := by
  obtain ⟨⟨e₁, s₁⟩, h₁, h⟩ := except_bind_eq_ok.1 h
  obtain ⟨t, m, hd, hm, rfl, hw⟩ := hoperand h₁
  have hlinks := hd.links_operand
  have := H.links (.first hd) hm (hlinks ▸ hw) h
  rwa [hlinks] at this

theorem operand (H : ReadersSound schema n) (h : parseOperand schema k n s = .ok (e, rest)) :
    Finds schema k.operand n s e rest := by
  cases k with
  | and => exact H.not h
  | or => exact H.chain_of_operand (k := .and) H.not h

theorem chain (H : ReadersSound schema n) (h : parseChain schema k n s = .ok (e, rest)) :
    Finds schema (.chain k) n s e rest := H.chain_of_operand H.operand h

end ReadersSound

theorem finds_comparison (h : comparison schema (skipBlanks s) = .ok (e, rest)) :
    Finds schema .not n s e rest := by
  obtain ⟨c, m, rfl, hc, hm⟩ := isComparison_of_comparison h
  exact ⟨.leaf c, m, .plain (.comparison (padded_skipBlanks s) hc), hm, rfl, by simp⟩

/-- Induction on the free levels: a reader hands a text on with one level less, if it has any. -/
theorem levels_induction {P : Nat → Prop} (step : ∀ n, (∀ k, n = k + 1 → P k) → P n) (n : Nat) :
    P n := by
  induction n with
  | zero =>
    refine step 0 fun k hk => ?_
    omega
  | succ n ih =>
    refine step (n + 1) fun k hk => ?_
    obtain rfl : n = k := by omega
    exact ih

theorem finds_parseNot (ih : ∀ k, n = k + 1 → ReadersSound schema k)
    (h : parseNot schema n s = .ok (e, rest)) : Finds schema .not n s e rest := by
  by_cases hneg : ∃ s', skipBlanks s = '!' :: s'
  · obtain ⟨s', hs⟩ := hneg
    cases n with
    | zero => simp [parseNot, hs, tooDeep] at h
    | succ n =>
      rw [parseNot_negation hs] at h
      obtain ⟨⟨e', s₁⟩, h₁, hok⟩ := except_bind_eq_ok.1 h
      cases hok
      obtain ⟨t, m, hd, hm, rfl, hw⟩ := (ih n rfl).not h₁
      exact ⟨.not t, m, .negation (hs ▸ padded_skipBlanks s) hd, hm, rfl,
        ParseTree.within_not.2 ⟨n, rfl, hw⟩⟩
  by_cases hgroup : ∃ s', skipBlanks s = '(' :: s'
  · obtain ⟨s', hs⟩ := hgroup
    cases n with
    | zero => simp [parseNot, hs, tooDeep] at h
    | succ n =>
      rw [parseNot_group hs] at h
      obtain ⟨⟨e', s₁⟩, h₁, hclose⟩ := except_bind_eq_ok.1 h
      obtain ⟨t, m, hd, hm, rfl, hw⟩ := (ih n rfl).chain h₁
      obtain ⟨rfl, hs₁⟩ := closeGroup_eq_ok_iff.1 hclose
      have hm' : Padded m (')' :: rest) := (padded_cons_iff (by decide)).2 (hm.trans hs₁)
      exact ⟨.group t, rest, .plain (.group (hs ▸ padded_skipBlanks s) hd hm'), rfl, rfl,
        ParseTree.within_group.2 ⟨n, rfl, hw⟩⟩
  rw [parseNot_comparison (not_exists.1 hneg) (not_exists.1 hgroup)] at h
  exact finds_comparison h

theorem finds_parseLinks (ih : ∀ k, n = k + 1 → ReadersSound schema k) {s₀ : List Char}
    {l : ParseTree} (hl : Derives schema (.chain k) s₀ l m) (hm : skipBlanks m = skipBlanks s)
    (hw : l.Within (n + l.links k)) (h : parseLinks schema k n l.expr s = .ok (e, rest)) :
    Finds schema (.chain k) (n + l.links k) s₀ e rest := by
  by_cases hlink : ∃ s', skipBlanks s = k.symbol :: s'
  · obtain ⟨s', hs⟩ := hlink
    cases n with
    | zero =>
      rw [parseLinks_tooDeep hs] at h
      cases h
    | succ n =>
      rw [parseLinks_link hs] at h
      obtain ⟨⟨e', s₁⟩, h₁, h₂⟩ := except_bind_eq_ok.1 h
      obtain ⟨r, m', hr, hm', rfl, hwr⟩ := (ih n rfl).operand h₁
      have hchain : Derives schema (.chain k) s₀ (.link k l r) m' :=
        .link hl ((padded_cons_iff k.isBlank_symbol).2 (hm.trans hs)) hr
      -- the link that was read moves one level from the free ones to those of the chain
      have hlevels : n + 1 + l.links k = n + (ParseTree.link k l r).links k := by
        rw [ParseTree.links_link]
        omega
      have hwithin : (ParseTree.link k l r).Within (n + (ParseTree.link k l r).links k) := by
        rw [← hlevels]
        exact ParseTree.within_link.2 ⟨hw, n, by omega, hwr⟩
      rw [hlevels]
      exact (ih n rfl).links hchain hm' hwithin h₂
  · rw [parseLinks_stop (not_exists.1 hlink)] at h
    cases h
    exact ⟨l, m, hl, hm, rfl, hw⟩

/-- **What the readers find is derived**, by induction on the free levels. -/
theorem readersSound (schema : Schema) (n : Nat) : ReadersSound schema n :=
  levels_induction (fun _ ih => ⟨finds_parseNot ih, finds_parseLinks ih⟩) n

/-! ### What is derived is read -/

/-- No operand of the chain goes on with the text: after a disjunction no `&` may follow. -/
def Chain.Closes : Chain → List Char → Prop
  | and, _ => True
  | or, m => NotNext '&' m

theorem Chain.closes_of_padded (h : Padded m (k.symbol :: s)) : k.Closes m := by
  cases k with
  | and => trivial
  | or => exact notNext_of_padded h (by decide) (by decide)

/-- What a derivation says about the readers: with enough free levels, they read the text that is
derived.  A chain is read up to its end, and its reader is then about to look for one more link. -/
def Reads (schema : Schema) : Nonterminal → List Char → ParseTree → List Char → Prop
  | .chain k, s, t, m => k.Closes m → ∀ n, t.Within n → ∃ rest i,
      skipBlanks rest = skipBlanks m ∧ n = i + t.links k ∧
        parseChain schema k n s = parseLinks schema k i t.expr rest
  | _, s, t, m => ∀ n, t.Within n → ∃ rest,
      skipBlanks rest = skipBlanks m ∧ parseNot schema n s = .ok (t.expr, rest)

theorem Reads.chain {t : ParseTree} (h : Reads schema (.chain k) s t m) (hm : k.Closes m)
    (hend : NotNext k.symbol m) (hw : t.Within n) :
    ∃ rest, skipBlanks rest = skipBlanks m ∧ parseChain schema k n s = .ok (t.expr, rest) := by
  obtain ⟨rest, i, hrest, -, hparse⟩ := h hm n hw
  refine ⟨rest, hrest, ?_⟩
  rw [hparse, parseLinks_stop (hend.congr hrest)]

theorem Reads.operand {t : ParseTree} (h : Reads schema k.operand s t m) (hm : k.Closes m)
    (hw : t.Within n) :
    ∃ rest, skipBlanks rest = skipBlanks m ∧ parseOperand schema k n s = .ok (t.expr, rest) := by
  cases k with
  | and => exact h n hw
  | or => exact Reads.chain (k := .and) h trivial hm hw

/-- **What is derived is read**, by induction on the derivation. -/
theorem Derives.reads {k : Nonterminal} {t : ParseTree} (h : Derives schema k s t m) :
    Reads schema k s t m := by
  induction h with
  | @first k s m t h ih =>
    intro hm n hw
    obtain ⟨rest, hrest, hparse⟩ := ih.operand hm hw
    refine ⟨rest, n, hrest, by simp [h.links_operand], ?_⟩
    rw [parseChain, hparse, except_ok_bind]
  | @link k s m₁ m₁' m l r hl hsym hr ihl ihr =>
    intro hm n hw
    obtain ⟨hwl, j, hj, hwr⟩ := ParseTree.within_link.1 hw
    obtain ⟨rest₁, i, hrest₁, hi, hparse₁⟩ := ihl (Chain.closes_of_padded hsym) n hwl
    obtain ⟨rest, hrest, hparse⟩ := ihr.operand hm hwr
    obtain rfl : i = j + 1 := by omega
    refine ⟨rest, j, hrest, by rw [ParseTree.links_link, hj], ?_⟩
    rw [hparse₁, parseLinks_link (hrest₁.trans ((padded_cons_iff k.isBlank_symbol).1 hsym)), hparse,
      except_ok_bind]
    rfl
  | negation hsym h ih =>
    intro n hw
    obtain ⟨j, rfl, hj⟩ := ParseTree.within_not.1 hw
    obtain ⟨rest, hrest, hparse⟩ := ih j hj
    refine ⟨rest, hrest, ?_⟩
    rw [parseNot_negation ((padded_cons_iff (by decide)).1 hsym), hparse, except_ok_bind]
    rfl
  | plain h ih => exact ih
  | @group s s' m rest t hopen h hclose ih =>
    intro n hw
    obtain ⟨j, rfl, hj⟩ := ParseTree.within_group.1 hw
    obtain ⟨rest', hrest', hparse⟩ := ih.chain (notNext_of_padded hclose (by decide) (by decide))
      (notNext_of_padded hclose (by decide) (by decide)) hj
    refine ⟨rest, rfl, ?_⟩
    rw [parseNot_group ((padded_cons_iff (by decide)).1 hopen), hparse, except_ok_bind]
    exact closeGroup_eq_ok_iff.2 ⟨rfl, hrest'.trans ((padded_cons_iff (by decide)).1 hclose)⟩
  | comparison hpad h =>
    intro n _
    obtain ⟨rest, hparse, hrest⟩ := h.reads
    refine ⟨rest, hrest, ?_⟩
    rw [parseNot_comparison (h.notNext hpad (by decide)) (h.notNext hpad (by decide)),
      h.padded_iff.1 hpad, hparse]
    rfl

/-! ### Whole filters -/

theorem parseFilter_eq_ok_iff {input : String} :
    parseFilter schema input = .ok e ↔ ∃ rest,
      parseChain schema .or nestingLimit input.toList = .ok (e, rest) ∧
        ∀ c ∈ rest, isWhiteSpace c = true := by
  unfold parseFilter
  cases parseChain schema .or nestingLimit input.toList with
  | error stop => simp
  | ok r =>
    obtain ⟨e', rest⟩ := r
    have hends : (∃ rest', (e', rest) = (e, rest') ∧ ∀ c ∈ rest', isWhiteSpace c = true) ↔
        e' = e ∧ trimLeft rest = [] := by
      rw [trimLeft_eq_nil_iff]
      constructor
      · rintro ⟨_, ⟨⟩, h⟩
        exact ⟨rfl, h⟩
      · rintro ⟨rfl, h⟩
        exact ⟨rest, rfl, h⟩
    simp only [Except.ok.injEq, hends]
    split
    · rename_i htrim
      simp [htrim]
    · rename_i htrim
      simp [htrim]

/-- An accepted filter is a sentence within the nesting limit. -/
theorem exists_sentence_of_parseFilter {input : String} (h : parseFilter schema input = .ok e) :
    ∃ t, Sentence schema input.toList t ∧ t.expr = e ∧ t.Within nestingLimit := by
  obtain ⟨rest, h, hrest⟩ := parseFilter_eq_ok_iff.1 h
  obtain ⟨t, m, hd, hm, rfl, hw⟩ := (readersSound schema nestingLimit).chain h
  refine ⟨t, ⟨m, hd, ?_⟩, rfl, hw⟩
  rwa [← forall_isWhiteSpace_skipBlanks, hm, forall_isWhiteSpace_skipBlanks]

/-- A sentence within the nesting limit is accepted, and read as its tree. -/
theorem Sentence.parseFilter_eq {input : String} {t : ParseTree}
    (h : Sentence schema input.toList t) (hw : t.Within nestingLimit) :
    parseFilter schema input = .ok t.expr := by
  obtain ⟨m, hd, hm⟩ := h
  obtain ⟨rest, hrest, hparse⟩ := hd.reads.chain (notNext_of_isWhiteSpace hm (by decide))
    (notNext_of_isWhiteSpace hm (by decide)) hw
  refine parseFilter_eq_ok_iff.2 ⟨rest, hparse, ?_⟩
  rwa [← forall_isWhiteSpace_skipBlanks, hrest, forall_isWhiteSpace_skipBlanks]

end FleetQuery
