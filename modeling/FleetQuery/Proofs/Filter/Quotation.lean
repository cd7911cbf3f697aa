import FleetQuery.Entity.Container
import FleetQuery.Proofs.Filter.Language
import FleetQuery.Proofs.Filter.Place

/-!
# Quoted patterns are inert

Whatever stands between the quotes of a pattern, the rest of the filter is read in the same way.

* `ParseTree.modifyLeaf` : a parse tree with one comparison changed costs what it did before;
* `Derives.requote` : a derivation with another text between the quotes of one pattern;
* `parseFilter_requote` : **another quoted text changes one pattern and nothing else**.
-/

namespace FleetQuery

namespace ParseTree

variable (f : Comparison → Comparison) (t : ParseTree) (i : Nat)

/-- Change the `i`-th comparison of a parse tree, counted from zero. -/
def modifyLeaf : ParseTree → Nat → ParseTree
  | leaf c, i => if i = 0 then leaf (f c) else leaf c
  | group t, i => group (t.modifyLeaf i)
  | not t, i => not (t.modifyLeaf i)
  | link k l r, i =>
    if i < l.expr.leaves.length then link k (l.modifyLeaf i) r
    else link k l (r.modifyLeaf (i - l.expr.leaves.length))

theorem expr_modifyLeaf : (t.modifyLeaf f i).expr = t.expr.modifyLeaf f i := by
  induction t generalizing i with
  | leaf c => cases i <;> rfl
  | group t ih => exact ih i
  | not t ih => exact congrArg Expr.not (ih i)
  | link k l r ihl ihr =>
    rw [modifyLeaf, expr, Expr.modifyLeaf_combine]
    split_ifs
    · rw [expr, ihl]
    · rw [expr, ihr]

theorem links_modifyLeaf (k : Chain) : (t.modifyLeaf f i).links k = t.links k := by
  induction t generalizing i with
  | leaf c => cases i <;> rfl
  | group | not => rfl
  | link k' l r ihl _ =>
    rw [modifyLeaf]
    split_ifs <;> simp [links, ihl]

theorem costs_modifyLeaf : (t.modifyLeaf f i).costs = t.costs := by
  induction t generalizing i with
  | leaf c => cases i <;> rfl
  | group t ih | not t ih => rw [modifyLeaf, costs, costs, ih]
  | link k l r ihl ihr =>
    rw [modifyLeaf]
    split_ifs
    · rw [costs, costs, ihl, links_modifyLeaf]
    · rw [costs, costs, ihr]

end ParseTree

/-! ### One comparison -/

variable {schema : Schema} {s m u v w b : List Char} {q : Char} {c : Comparison} {i : Nat}

theorem patternPlace?_eq_some_iff :
    patternPlace? s = some u ↔ ∃ name after op after', fieldName? s = some (name, after) ∧
      operator? (skipBlanks after) = some (op, after') ∧ skipBlanks after' = u := by
  simp [patternPlace?, Option.bind_eq_some_iff]

/-- The comparison with another pattern. -/
def Comparison.withPattern (v : List Char) (c : Comparison) : Comparison :=
  { c with pattern := String.ofList v }

/-- The field and the operator are read as before when another text stands between the quotes. -/
theorem IsComparison.requote (h : IsComparison schema s c m)
    (hplace : FleetQuery.patternPlace? s = some (q :: w ++ q :: b)) (hq : q = '\'' ∨ q = '"')
    (hw : q ∉ w) :
    m = b ∧ c.pattern = String.ofList w ∧ ∃ x, s = x ++ (q :: w ++ q :: b) ∧ ∀ v, q ∉ v →
      IsComparison schema (x ++ (q :: v ++ q :: b)) (c.withPattern v) b := by
  obtain ⟨name, after, op, after', hname, hop, hu⟩ := patternPlace?_eq_some_iff.1 hplace
  obtain ⟨name', after₁, rule, hname', hresolve, hallows, htail⟩ := h.exists_tokens
  obtain ⟨rfl, rfl⟩ := Prod.mk.inj (Option.some.inj (hname'.symm.trans hname))
  rcases htail with ⟨hnone, -, -, -⟩ | ⟨after₂, p, hop', hpattern, hp⟩
  · rw [hop] at hnone
    cases hnone
  obtain ⟨rfl, rfl⟩ := Prod.mk.inj (Option.some.inj (hop'.symm.trans hop))
  rw [hu, pattern_eq_ok_iff.2 (.quoted hq hw)] at hpattern
  obtain ⟨rfl, rfl⟩ := Prod.mk.inj (Except.ok.inj hpattern)
  -- the text of the comparison, token by token
  obtain ⟨rfl, hfield⟩ := fieldName?_eq_some_iff.1 hname
  obtain ⟨hsym, hoperator⟩ := operator?_eq_some_iff.1 hop
  obtain ⟨x, hx, rfl⟩ := hsym ▸ padded_skipBlanks after₁
  obtain ⟨y, hy, rfl⟩ := hu ▸ padded_skipBlanks after₂
  refine ⟨rfl, hp, name' ++ (x ++ (c.op.symbol.toList ++ y)), by simp, fun v hv => ?_⟩
  have hoperator' : IsOperator c.op (y ++ (q :: v ++ q :: b)) :=
    hoperator.of_head? (head?_append_append (List.cons_ne_nil q []) y _ _)
  have hfield' : IsFieldName name' (x ++ (c.op.symbol.toList ++ (y ++ (q :: v ++ q :: b)))) :=
    hfield.of_head? (head?_append_append (Operator.symbol_toList_ne_nil hoperator.1) x _ _)
  have := IsComparison.compare hfield' ⟨x, hx, rfl⟩ hoperator' ⟨y, hy, rfl⟩ (.quoted hq hv)
    hresolve hallows
  simpa [Comparison.withPattern] using this

/-! ### Derivations -/

variable {k k' : Nonterminal} {tree l r : ParseTree}

/-- Wherever the text `w` stands between the quotes of a pattern of a derivation, with `b` behind
it, any `v` without that quote may stand in its place. -/
def Requotable (schema : Schema) (q : Char) (w b : List Char) (k : Nonterminal) (s : List Char)
    (tree : ParseTree) (m : List Char) : Prop :=
  ∀ i u, (tree.places s)[i]? = some u → patternPlace? u = some (q :: w ++ q :: b) →
    m <:+ b ∧ (∃ c, tree.expr.leaves[i]? = some c ∧ c.pattern = String.ofList w) ∧
      ∃ x, s = x ++ (q :: w ++ q :: b) ∧ ∀ v, q ∉ v →
        Derives schema k (x ++ (q :: v ++ q :: b)) (tree.modifyLeaf (·.withPattern v) i) m

theorem Requotable.imp (h : Requotable schema q w b k s tree m)
    (hk : ∀ s tree, Derives schema k s tree m → Derives schema k' s tree m) :
    Requotable schema q w b k' s tree m := by
  intro i u hi hplace
  obtain ⟨hm, hc, x, hs, hnew⟩ := h i u hi hplace
  exact ⟨hm, hc, x, hs, fun v hv => hk _ _ (hnew v hv)⟩

/-- A link of a chain: the quoted pattern is in the chain before it, and what follows it stays; or
it is in the operand behind it, and the chain is derived before the new text as it was before the
old one. -/
theorem Requotable.link {j : Chain} (hl : Derives schema (.chain j) s l m)
    (hsym : Padded m (j.symbol :: u)) (hr : Derives schema j.operand u r v)
    (ihl : Requotable schema q w b (.chain j) s l m)
    (ihr : Requotable schema q w b j.operand u r v) :
    Requotable schema q w b (.chain j) s (.link j l r) v := by
  intro i t hi hplace
  have hlength : (l.places s).length = l.expr.leaves.length := hl.places.length_eq
  rw [ParseTree.places, hl.after_eq, afterSymbol_of_padded hsym j.isBlank_symbol] at hi
  rw [ParseTree.expr, Expr.leaves_combine]
  simp only [ParseTree.modifyLeaf]
  by_cases hlt : i < l.expr.leaves.length
  · rw [List.getElem?_append_left (hlength ▸ hlt)] at hi
    obtain ⟨hm, ⟨c, hc, hp⟩, y, hs, hnew⟩ := ihl i t hi hplace
    refine ⟨?_, ⟨c, ?_, hp⟩, y, hs, fun z hz => ?_⟩
    · exact hr.suffix.trans ((List.suffix_cons _ u).trans (hsym.suffix.trans hm))
    · rwa [List.getElem?_append_left hlt]
    · rw [if_pos hlt]
      exact .link (hnew z hz) hsym hr
  · rw [List.getElem?_append_right (hlength ▸ not_lt.1 hlt), hlength] at hi
    obtain ⟨hm, ⟨c, hc, hp⟩, y, rfl, hnew⟩ := ihr _ t hi hplace
    obtain ⟨pad, hpad, rfl⟩ := hsym
    obtain ⟨y', rfl, hphrase⟩ := hl.phrase
    refine ⟨hm, ⟨c, ?_, hp⟩, y' ++ (pad ++ j.symbol :: y), by simp, fun z hz => ?_⟩
    · rwa [List.getElem?_append_right (not_lt.1 hlt)]
    · have hsym' : Padded (pad ++ j.symbol :: (y ++ (q :: z ++ q :: b)))
          (j.symbol :: (y ++ (q :: z ++ q :: b))) := ⟨pad, hpad, rfl⟩
      have hl' := hphrase _ (boundary_of_link hsym')
      rw [if_neg hlt]
      simpa using Derives.link hl' hsym' (hnew z hz)

/-- **Quoted patterns may be exchanged in every derivation.** -/
theorem Derives.requotable (h : Derives schema k s tree m) (hq : q = '\'' ∨ q = '"')
    (hw : q ∉ w) : Requotable schema q w b k s tree m := by
  induction h with
  | first _ ih => exact ih.imp fun _ _ => .first
  | plain _ ih => exact ih.imp fun _ _ => .plain
  | link hl hsym hr ihl ihr => exact .link hl hsym hr ihl ihr
  | negation hsym _ ih =>
    intro i u hi hplace
    rw [ParseTree.places, afterSymbol_of_padded hsym (by decide)] at hi
    obtain ⟨hm, hc, x, rfl, hnew⟩ := ih i u hi hplace
    obtain ⟨pad, hpad, rfl⟩ := hsym
    exact ⟨hm, hc, pad ++ '!' :: x, by simp,
      fun v hv => .negation ⟨pad, hpad, by simp⟩ (hnew v hv)⟩
  | group hopen _ hclose ih =>
    intro i u hi hplace
    rw [ParseTree.places, afterSymbol_of_padded hopen (by decide)] at hi
    obtain ⟨hm, hc, x, rfl, hnew⟩ := ih i u hi hplace
    obtain ⟨pad, hpad, rfl⟩ := hopen
    exact ⟨(List.suffix_cons _ _).trans (hclose.suffix.trans hm), hc, pad ++ '(' :: x, by simp,
      fun v hv => .group ⟨pad, hpad, by simp⟩ (hnew v hv) hclose⟩
  | @comparison s s' rest c hpad h =>
    intro i u hi hplace
    rw [ParseTree.places, h.padded_iff.1 hpad, List.getElem?_singleton] at hi
    split_ifs at hi with hzero
    obtain rfl := hzero
    obtain rfl := Option.some.inj hi
    obtain ⟨rfl, hp, x, rfl, hnew⟩ := h.requote hplace hq hw
    obtain ⟨pad, hpad, rfl⟩ := hpad
    exact ⟨List.suffix_rfl, ⟨c, rfl, hp⟩, pad ++ x, by simp,
      fun v hv => .comparison ⟨pad, hpad, by simp⟩ (hnew v hv)⟩

/-! ### Whole filters -/

/-- In the text made of `a`, the quote `q`, `w`, `q` and `b`, the pattern of the `i`-th comparison
is `w` between the two quotes. -/
def QuotedAt (schema : Schema) (a : List Char) (q : Char) (w b : List Char) (i : Nat) : Prop :=
  (q = '\'' ∨ q = '"') ∧ q ∉ w ∧ ∃ tree u, Sentence schema (a ++ (q :: w ++ q :: b)) tree ∧
    (tree.places (a ++ (q :: w ++ q :: b)))[i]? = some u ∧
    patternPlace? u = some (q :: w ++ q :: b)

/-- **What stands between quotes is inert**: an accepted filter with another text between the quotes
of one pattern is accepted, and read as before but for this pattern. -/
theorem parseFilter_requote {schema : Schema} {a w b v : List Char} {q : Char} {i : Nat} {e : Expr}
    (h : parseFilter schema (String.ofList (a ++ (q :: w ++ q :: b))) = .ok e)
    (hquoted : QuotedAt schema a q w b i) (hv : q ∉ v) :
    parseFilter schema (String.ofList (a ++ (q :: v ++ q :: b))) =
        .ok (e.modifyLeaf (fun c => { c with pattern := String.ofList v }) i) ∧
      ∃ c, e.leaves[i]? = some c ∧ c.pattern = String.ofList w := by
  obtain ⟨hq, hw, tree, u, hsentence, hi, hplace⟩ := hquoted
  obtain ⟨tree', hsentence', rfl, hwithin⟩ := exists_sentence_of_parseFilter h
  rw [String.toList_ofList] at hsentence'
  obtain rfl := hsentence.unique hsentence'
  obtain ⟨rest, hderives, hrest⟩ := hsentence
  obtain ⟨-, hc, x, hs, hnew⟩ := hderives.requotable hq hw i u hi hplace
  obtain rfl := List.append_cancel_right hs
  refine ⟨?_, hc⟩
  have hsentence : Sentence schema (String.ofList (a ++ (q :: v ++ q :: b))).toList
      (tree'.modifyLeaf (·.withPattern v) i) := by
    rw [String.toList_ofList]
    exact ⟨rest, hnew v hv, hrest⟩
  have hwithin' : (tree'.modifyLeaf (·.withPattern v) i).Within nestingLimit := by
    rw [ParseTree.Within, ParseTree.costs_modifyLeaf]
    exact hwithin
  rw [hsentence.parseFilter_eq hwithin', ParseTree.expr_modifyLeaf]
  rfl

/-- The second of two comparisons gets a pattern full of symbols, and stays one comparison. -/
theorem parseFilter_requote_symbols :
    let a := "running|name=".toList
    let v := "\" | !(id=1)\n& x".toList
    let e : Expr := .or (.leaf ⟨.named "running", .is, ""⟩) (.leaf ⟨.named "name", .eq, "a"⟩)
    let e' : Expr := .or (.leaf ⟨.named "running", .is, ""⟩)
      (.leaf ⟨.named "name", .eq, "\" | !(id=1)\n& x"⟩)
    parseFilter Container.schema (String.ofList (a ++ ('\'' :: ['a'] ++ '\'' :: []))) = .ok e ∧
      QuotedAt Container.schema a '\'' ['a'] [] 1 ∧ '\'' ∉ v ∧
      parseFilter Container.schema (String.ofList (a ++ ('\'' :: v ++ '\'' :: []))) = .ok e' := by
  intro a v e e'
  have hinput : String.ofList (a ++ ('\'' :: ['a'] ++ '\'' :: [])) = "running|name='a'" := rfl
  have hparse : parseFilter Container.schema (String.ofList (a ++ ('\'' :: ['a'] ++ '\'' :: []))) =
      .ok e := by
    rw [hinput]
    rfl
  have hsentence : Sentence Container.schema "running|name='a'".toList
      (.link .or (.leaf ⟨.named "running", .is, ""⟩) (.leaf ⟨.named "name", .eq, "a"⟩)) := by
    obtain ⟨_, m, ⟨⟩, hleft, hm⟩ := isComparison_of_comparison
      (rfl : comparison Container.schema "running|name='a'".toList =
        .ok (.leaf ⟨.named "running", .is, ""⟩, "|name='a'".toList))
    obtain ⟨_, rest, ⟨⟩, hright, hrest⟩ := isComparison_of_comparison
      (rfl : comparison Container.schema "name='a'".toList =
        .ok (.leaf ⟨.named "name", .eq, "a"⟩, []))
    refine ⟨rest, .link (.first (.first (.plain (.comparison (padded_skipBlanks _) hleft))))
      ((padded_cons_iff (by decide)).2 hm)
      (.first (.plain (.comparison (padded_skipBlanks _) hright))), ?_⟩
    rw [← forall_isWhiteSpace_skipBlanks, hrest]
    simp [skipBlanks]
  have hquoted : QuotedAt Container.schema a '\'' ['a'] [] 1 :=
    ⟨.inl rfl, by decide, _, _, hsentence, rfl, rfl⟩
  have hv : '\'' ∉ v := by decide
  exact ⟨hparse, hquoted, hv, (parseFilter_requote hparse hquoted hv).1⟩

end FleetQuery
