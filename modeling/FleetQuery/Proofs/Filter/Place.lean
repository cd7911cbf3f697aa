import FleetQuery.Proofs.Filter.Boundary
import FleetQuery.Proofs.Filter.Leaves
import FleetQuery.Proofs.Filter.Schema
import Mathlib.Data.List.Forall2

/-!
# Where comparisons stand

The tree of a derivation says how its text was cut into tokens, so a tree and a text are enough to
find again where each comparison was read.  A place is given as the text from there on.

* `ParseTree.places` : the places of the comparisons of a tree, from left to right;
* `patternPlace?` : the place of the pattern of a comparison;
* `Derives.places` : at every place stands the comparison that the tree has there;
* `Validated`, `validated_of_parseFilter` : **what the schema has checked of every comparison of an
  accepted filter**.
-/

namespace FleetQuery

/-! ### Places -/

/-- The pattern of the comparison at the front of a text, and what follows it; nothing if no
operator follows the field. -/
def patternPlace? (s : List Char) : Option (List Char) := do
  let (_, rest) ← fieldName? s
  let (_, after) ← operator? (skipBlanks rest)
  pure (skipBlanks after)

/-- What follows the comparison at the front of a text. -/
def afterComparison (s : List Char) : List Char :=
  match patternPlace? s with
  | none => ((fieldName? s).map (·.2)).getD s
  | some u =>
    match pattern u with
    | .ok (_, rest) => rest
    | .error stop => stop.rest

/-- What follows the symbol at the front of a text. -/
def afterSymbol (s : List Char) : List Char := (skipBlanks s).tail

namespace ParseTree

/-- What follows the front of a text that the tree was derived from. -/
def after : ParseTree → List Char → List Char
  | leaf _, s => afterComparison (skipBlanks s)
  | group t, s => afterSymbol (t.after (afterSymbol s))
  | not t, s => t.after (afterSymbol s)
  | link _ l r, s => r.after (afterSymbol (l.after s))

/-- Where the comparisons of a tree begin in the text that it was derived from, from left to
right. -/
def places : ParseTree → List Char → List (List Char)
  | leaf _, s => [skipBlanks s]
  | group t, s => t.places (afterSymbol s)
  | not t, s => t.places (afterSymbol s)
  | link _ l r, s => l.places s ++ r.places (afterSymbol (l.after s))

end ParseTree

variable {schema : Schema} {s m t : List Char} {c : Comparison} {tree : ParseTree}
  {k : Nonterminal}

theorem afterSymbol_of_padded {x : Char} (h : Padded s (x :: t)) (hx : isBlank x = false) :
    afterSymbol s = t := by
  rw [afterSymbol, (padded_cons_iff hx).1 h, List.tail_cons]

theorem IsComparison.patternPlace? (h : IsComparison schema s c m) :
    (patternPlace? s = none ∧ ∃ name, fieldName? s = some (name, m)) ∨
      ∃ u p, patternPlace? s = some u ∧ pattern u = .ok (p, m) ∧ c.pattern = String.ofList p := by
  obtain ⟨name, after, rule, hname, -, -, htail⟩ := h.exists_tokens
  rcases htail with ⟨hop, -, -, rfl⟩ | ⟨after', p, hop, hpattern, hp⟩
  · exact .inl ⟨by simp [FleetQuery.patternPlace?, hname, hop], name, hname⟩
  · exact .inr ⟨_, p, by simp [FleetQuery.patternPlace?, hname, hop], hpattern, hp⟩

theorem IsComparison.afterComparison_eq (h : IsComparison schema s c m) :
    afterComparison s = m := by
  rcases h.patternPlace? with ⟨hplace, name, hname⟩ | ⟨u, p, hplace, hpattern, -⟩
  · simp [afterComparison, hplace, hname]
  · simp [afterComparison, hplace, hpattern]

/-- What follows by the tree is what the derivation leaves. -/
theorem Derives.after_eq (h : Derives schema k s tree m) : tree.after s = m := by
  induction h with
  | first _ ih | plain _ ih => exact ih
  | link _ hsym _ ihl ihr =>
    rw [ParseTree.after, ihl, afterSymbol_of_padded hsym (Chain.isBlank_symbol _), ihr]
  | negation hsym _ ih => rw [ParseTree.after, afterSymbol_of_padded hsym (by decide), ih]
  | group hopen _ hclose ih =>
    rw [ParseTree.after, afterSymbol_of_padded hopen (by decide), ih,
      afterSymbol_of_padded hclose (by decide)]
  | comparison hpad h => rw [ParseTree.after, h.padded_iff.1 hpad, h.afterComparison_eq]

/-- **At every place stands the comparison that the tree has there.** -/
theorem Derives.places (h : Derives schema k s tree m) :
    List.Forall₂ (fun u c => u <:+ s ∧ ∃ rest, IsComparison schema u c rest) (tree.places s)
      tree.expr.leaves := by
  -- places in a text are places in every text that ends with it
  have mono : ∀ {s s' : List Char} {us : List (List Char)} {cs : List Comparison}, s <:+ s' →
      List.Forall₂ (fun u c => u <:+ s ∧ ∃ rest, IsComparison schema u c rest) us cs →
      List.Forall₂ (fun u c => u <:+ s' ∧ ∃ rest, IsComparison schema u c rest) us cs :=
    fun hs => List.Forall₂.imp fun _ _ hu => ⟨hu.1.trans hs, hu.2⟩
  induction h with
  | first _ ih | plain _ ih => exact ih
  | link hl hsym _ ihl ihr =>
    rw [ParseTree.places, ParseTree.expr, Expr.leaves_combine, hl.after_eq,
      afterSymbol_of_padded hsym (Chain.isBlank_symbol _)]
    have hsuffix := (List.suffix_cons _ _).trans (hsym.suffix.trans hl.suffix)
    exact List.rel_append ihl (mono hsuffix ihr)
  | negation hsym _ ih | group hsym _ _ ih =>
    rw [ParseTree.places, afterSymbol_of_padded hsym (by decide)]
    exact mono ((List.suffix_cons _ _).trans hsym.suffix) ih
  | comparison hpad h =>
    rw [ParseTree.places, h.padded_iff.1 hpad]
    exact .cons ⟨hpad.suffix, _, h⟩ .nil

/-! ### What the schema has checked -/

/-- What reading a comparison at the place `u` has made sure of: the name of its field stands there
and resolves to the field again, by a rule that allows the operator; and a pattern is only given
to an operator. -/
structure Validated (schema : Schema) (u : List Char) (c : Comparison) : Prop where
  /-- The field name as a token of the filter. -/
  name : ∃ rest, u = c.field.display.toList ++ rest ∧ IsFieldName c.field.display.toList rest
  /-- The rule of the field. -/
  rule : ∃ rule, schema.resolve? c.field.display = some (c.field, rule) ∧ c.op ∈ rule.operators
  /-- The existence test takes no pattern. -/
  pattern : c.op = .is → c.pattern = ""

theorem IsComparison.validated (h : IsComparison schema s c m) : Validated schema s c := by
  obtain ⟨name, after, rule, hname, hresolve, hallows, htail⟩ := h.exists_tokens
  have hdisplay := Schema.display_of_resolve? hresolve
  refine ⟨⟨after, ?_⟩, ⟨rule, hdisplay ▸ hresolve, ?_⟩, fun hop => ?_⟩
  · rw [hdisplay, String.toList_ofList]
    exact fieldName?_eq_some_iff.1 hname
  · simpa [FieldRule.allows] using hallows
  · rcases htail with ⟨-, -, hpattern, -⟩ | ⟨_, _, hsome, -, -⟩
    · exact hpattern
    -- no symbol stands for the existence test
    · exact absurd hop (prefix_of_operator? hsome).2.1

/-- **Every comparison of an accepted filter is validated**, at the place where it was read. -/
theorem validated_of_parseFilter {schema : Schema} {input : String} {e : Expr}
    (h : parseFilter schema input = .ok e) :
    ∃ tree, Sentence schema input.toList tree ∧ tree.expr = e ∧
      List.Forall₂ (fun u c => u <:+ input.toList ∧ Validated schema u c)
        (tree.places input.toList) e.leaves := by
  obtain ⟨tree, hsentence, rfl, -⟩ := exists_sentence_of_parseFilter h
  obtain ⟨rest, hderives, -⟩ := id hsentence
  refine ⟨tree, hsentence, rfl, hderives.places.imp ?_⟩
  rintro u c ⟨hu, rest, hc⟩
  exact ⟨hu, hc.validated⟩

/-- Rules that overlap: the first exact rule of `a.b` goes before the family `a` and before the
second exact rule, and the family `a` before the family `a.b`. -/
theorem validated_of_overlapping_rules :
    let schema : Schema := ⟨"any", [⟨.family "a", [.is]⟩, ⟨.exact "a.b", [.eq]⟩,
      ⟨.family "a.b", [.like]⟩, ⟨.exact "a.b", [.is]⟩]⟩
    let input := "!(a.b = 'x y' | a.b.c) & a.b=1"
    let e : Expr := .and (.not (.or (.leaf ⟨.named "a.b", .eq, "x y"⟩)
      (.leaf ⟨.member "a" "b.c", .is, ""⟩))) (.leaf ⟨.named "a.b", .eq, "1"⟩)
    parseFilter schema input = .ok e ∧ ∃ tree, Sentence schema input.toList tree ∧ tree.expr = e ∧
      List.Forall₂ (fun u c => u <:+ input.toList ∧ Validated schema u c)
        (tree.places input.toList) e.leaves :=
  ⟨rfl, validated_of_parseFilter rfl⟩

end FleetQuery
