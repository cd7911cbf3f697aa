import FleetQuery.Entity.Container
import FleetQuery.Proofs.Filter.Comparison
import FleetQuery.Proofs.Filter.Leaves
import FleetQuery.Proofs.Filter.Language
import FleetQuery.Text.Quoted

/-!
# Reading the normal form

An expression in normal form is a sentence of the grammar, with a group around every binary node,
and it is read as the expression again unless the groups use up the nesting limit.

* `Expr.printed` : the parse tree of the normal form;
* `Expr.pathCosts` : what the way to each comparison costs, told from the expression alone;
* `Comparison.Legible` : the comparisons that the normal form shows unchanged;
* `Expr.phrase_display` : the normal form is a phrase of its tree, before every boundary;
* `parseFilter_display` : **reading the normal form gives the expression back**, exactly if no way
  costs more than the nesting limit.
-/

namespace FleetQuery

variable {schema : Schema} {c : Comparison} {e : Expr}

namespace Expr

/-- The parse tree of the normal form. -/
def printed : Expr → ParseTree
  | and l r => .group (.link .and l.printed r.printed)
  | or l r => .group (.link .or l.printed r.printed)
  | not e => .not e.printed
  | leaf c => .leaf c

/-- For every comparison, from left to right, the number of connectives above it and of steps into a
right operand on the way to it. -/
def pathCosts : Expr → List Nat
  | and l r => l.pathCosts.map (· + 1) ++ r.pathCosts.map (· + 2)
  | or l r => l.pathCosts.map (· + 1) ++ r.pathCosts.map (· + 2)
  | not e => e.pathCosts.map (· + 1)
  | leaf _ => [0]

theorem printed_combine (k : Chain) (l r : Expr) :
    (k.combine l r).printed = .group (.link k l.printed r.printed) := by
  cases k <;> rfl

theorem expr_printed (e : Expr) : e.printed.expr = e := by
  induction e with
  | and l r ihl ihr | or l r ihl ihr =>
    rw [printed, ParseTree.expr, ParseTree.expr, ihl, ihr]
    rfl
  | not e ih => rw [printed, ParseTree.expr, ih]
  | leaf c => rfl

theorem links_printed (k : Chain) (e : Expr) : e.printed.links k = 0 := by
  cases e <;> rfl

/-- The parentheses around a binary node cost what the node counts on the way. -/
theorem costs_printed (e : Expr) : e.printed.costs = e.pathCosts := by
  induction e with
  | and l r ihl ihr | or l r ihl ihr =>
    simp only [printed, ParseTree.costs, pathCosts, ihl, ihr, links_printed, List.map_append,
      List.map_map]
    rfl
  | not e ih => rw [printed, ParseTree.costs, pathCosts, ih]
  | leaf c => rfl

end Expr

/-! ### Comparisons -/

/-- A comparison that a filter for the schema can say, with a pattern that quoting does not change.
-/
structure Comparison.Legible (schema : Schema) (c : Comparison) : Prop where
  /-- The field is written as a field name. -/
  name : IsFieldName c.field.display.toList []
  /-- The name stands for the field, by a rule that allows the operator. -/
  rule : ∃ rule, schema.resolve? c.field.display = some (c.field, rule) ∧ c.op ∈ rule.operators
  /-- The existence test takes no pattern. -/
  test : c.op = .is → c.pattern = ""
  /-- No character of the pattern of another operator is escaped. -/
  plain : c.op ≠ .is → ∀ x ∈ c.pattern.toList, quotedChar x = [x]

theorem flatMap_quotedChar {p : List Char} (h : ∀ x ∈ p, quotedChar x = [x]) :
    p.flatMap quotedChar = p := by
  induction p with
  | nil => rfl
  | cons x p ih =>
    rw [List.flatMap_cons, h x List.mem_cons_self, ih fun y hy => h y (List.mem_cons_of_mem x hy)]
    rfl

theorem quotedChar_quote : quotedChar '"' ≠ ['"'] := by decide

theorem Comparison.display_of_ne (h : c.op ≠ .is) :
    c.display = c.field.display ++ c.op.symbol ++ quotedText c.pattern := by
  obtain ⟨field, op, pattern⟩ := c
  cases op <;> first | exact absurd rfl h | rfl

theorem Comparison.Legible.phrase (h : c.Legible schema) :
    Phrase schema .atom c.display.toList (.leaf c) := by
  obtain ⟨field, op, pattern⟩ := c
  obtain ⟨hname, ⟨rule, hresolve, hmem⟩, htest, hplain⟩ := h
  have hresolve' : schema.resolve? (String.ofList field.display.toList) = some (field, rule) := by
    rwa [String.ofList_toList]
  have hallows : rule.allows op = true := List.contains_iff_mem.2 hmem
  by_cases hop : op = .is
  · obtain rfl := hop
    obtain rfl : pattern = "" := htest rfl
    exact .test hname hresolve' hallows
  · have hquote : '"' ∉ pattern.toList := fun hq => quotedChar_quote (hplain hop '"' hq)
    have hdisplay : (Comparison.display ⟨field, op, pattern⟩).toList =
        field.display.toList ++ (op.symbol.toList ++ ('"' :: pattern.toList ++ ['"'])) := by
      rw [Comparison.display_of_ne hop, String.toList_append, String.toList_append, quotedText,
        String.toList_ofList, flatMap_quotedChar (hplain hop), List.append_assoc]
    have hphrase := Phrase.quoted (w := []) (v := []) hname hresolve' hallows hop (by simp)
      (by simp) (.inr rfl) hquote
    rw [String.ofList_toList] at hphrase
    rw [hdisplay]
    exact hphrase

/-! ### Expressions -/

theorem Expr.display_toList_combine (k : Chain) (l r : Expr) : (k.combine l r).display.toList =
    '(' :: (l.display.toList ++ ([' '] ++ k.symbol :: ([' '] ++ r.display.toList)) ++ [')']) := by
  cases k <;> simp [Chain.combine, Chain.symbol, display]

theorem Expr.display_toList_not (e : Expr) : (not e).display.toList = '!' :: e.display.toList := by
  simp [display]

theorem Expr.phrase_display_combine {l r : Expr} (k : Chain)
    (hl : Phrase schema .not l.display.toList l.printed)
    (hr : Phrase schema .not r.display.toList r.printed) :
    Phrase schema .not (k.combine l r).display.toList (.group (.link k l.printed r.printed)) := by
  have hblank : ∀ c ∈ [' '], isBlank c = true := by simp [isBlank]
  have hlink := Phrase.link (j := k) hl.operand.first hblank (hr.pad hblank).operand
  rw [display_toList_combine]
  simpa using (hlink.disjunction.group (w := []) (y := []) (by simp) (by simp)).plain

/-- **The normal form is a phrase**, by induction on the expression. -/
theorem Expr.phrase_display (h : ∀ c ∈ e.leaves, c.Legible schema) :
    Phrase schema .not e.display.toList e.printed := by
  induction e using induction_combine with
  | combine k l r ihl ihr =>
    rw [leaves_combine, List.forall_mem_append] at h
    rw [printed_combine]
    exact phrase_display_combine k (ihl h.1) (ihr h.2)
  | not e ih =>
    rw [display_toList_not, printed]
    exact (ih h).negation (w := []) (by simp)
  | leaf c => exact (h c (List.mem_singleton.2 rfl)).phrase.plain

/-- **Reading the normal form gives the expression back.**  Of an expression whose comparisons are
legible, the normal form is accepted and read as this expression, exactly if on the way to each
comparison the connectives and the steps into a right operand are at most 256 together. -/
theorem parseFilter_display {schema : Schema} {e : Expr} (h : ∀ c ∈ e.leaves, c.Legible schema) :
    parseFilter schema e.display = .ok e ↔ ∀ n ∈ e.pathCosts, n ≤ 256 := by
  have hsentence := (Expr.phrase_display h).operand.first.sentence
  rw [← e.costs_printed]
  constructor
  · intro hparse
    obtain ⟨t, ht, -, hwithin⟩ := exists_sentence_of_parseFilter hparse
    rwa [ht.unique hsentence]
  · intro hcosts
    rw [hsentence.parseFilter_eq hcosts, e.expr_printed]

/-- A negated group to the left, and patterns with an apostrophe, blanks and symbols. -/
theorem parseFilter_display_nested :
    let e : Expr := .and (.not (.or (.leaf ⟨.named "running", .is, ""⟩)
      (.leaf ⟨.named "name", .like, "it's (a | b) & é"⟩)))
      (.not (.not (.leaf ⟨.member "label" "x.y/z", .eq, ""⟩)))
    (∀ c ∈ e.leaves, c.Legible Container.schema) ∧ (∀ n ∈ e.pathCosts, n ≤ 256) ∧
      e.display = "(!(running | name~\"it's (a | b) & é\") & !!label.x.y/z=\"\")" ∧
      parseFilter Container.schema e.display = .ok e := by
  intro e
  have hread : ∀ c ∈ e.leaves, fieldName? c.field.display.toList =
      some (c.field.display.toList, []) := by decide
  have hname := fun c hc => (fieldName?_eq_some_iff.1 (hread c hc)).2
  have hrule : ∀ c ∈ e.leaves, ∃ rule ∈ Container.schema.rules,
      Container.schema.resolve? c.field.display = some (c.field, rule) ∧ c.op ∈ rule.operators := by
    decide
  have htest : ∀ c ∈ e.leaves, c.op = .is → c.pattern = "" := by decide
  have hplain : ∀ c ∈ e.leaves, c.op ≠ .is →
      (c.pattern.toList.all fun x => quotedChar x == [x]) = true := by
    decide +kernel
  have hlegible : ∀ c ∈ e.leaves, c.Legible Container.schema := by
    intro c hc
    obtain ⟨rule, -, hresolve⟩ := hrule c hc
    exact ⟨hname c hc, ⟨rule, hresolve⟩, htest c hc, fun hop => by simpa using hplain c hc hop⟩
  have hcosts : ∀ n ∈ e.pathCosts, n ≤ 256 := by decide
  exact ⟨hlegible, hcosts, by decide +kernel, (parseFilter_display hlegible).2 hcosts⟩

end FleetQuery
