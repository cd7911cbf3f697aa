import FleetQuery.Filter.Parser
import FleetQuery.Proofs.Filter.Token

/-!
# The grammar of filters

The language of filters as derivations, independent of the reader:

    Or         := And ('|' And)*
    And        := Not ('&' Not)*
    Not        := '!' Not | Atom
    Atom       := '(' Or ')' | Comparison
    Comparison := Field [Operator Pattern]

* `ParseTree` : what a derivation leaves of a text; unlike an `Expr` it keeps the groups;
* `ParseTree.costs` : the nesting cost of every comparison, from left to right;
* `Derives schema k s t rest` : the nonterminal `k` derives the front of `s` with tree `t`, and
  leaves `rest`;
* `Sentence schema s t` : `Or` derives the whole text `s`, white space at the end apart.

The two chains are one rule for each `Chain`, of operands and symbols of its own.  Blanks may stand
before every token, and a derivation never ends with blanks.
-/

namespace FleetQuery

/-! ### Parse trees -/

/-- The tree of a derivation.  A chain of operands leans to the left. -/
inductive ParseTree
  /-- A comparison. -/
  | leaf (comparison : Comparison)
  /-- A tree in parentheses. -/
  | group (inner : ParseTree)
  /-- A negated tree. -/
  | not (operand : ParseTree)
  /-- A chain and one more operand. -/
  | link (k : Chain) (chain operand : ParseTree)
  deriving DecidableEq, Repr

namespace ParseTree

/-- The expression that a tree stands for. -/
def expr : ParseTree → Expr
  | leaf c => .leaf c
  | group t => t.expr
  | not t => .not t.expr
  | link k l r => k.combine l.expr r.expr

/-- The number of symbols in the chain of the given sort that the tree is. -/
def links (k : Chain) : ParseTree → Nat
  | link k' l _ => if k' = k then l.links k + 1 else 0
  | _ => 0

/-- The nesting costs of the comparisons, from left to right: one for every group and for every
negation around a comparison, and `i` for being in the `i`-th operand of a chain, counted from
zero. -/
def costs : ParseTree → List Nat
  | leaf _ => [0]
  | group t => t.costs.map (· + 1)
  | not t => t.costs.map (· + 1)
  | link k l r => l.costs ++ r.costs.map (· + (l.links k + 1))

@[simp] theorem links_link (k : Chain) (l r : ParseTree) :
    (link k l r).links k = l.links k + 1 := if_pos rfl

/-- No comparison costs more than `n`. -/
def Within (n : Nat) (t : ParseTree) : Prop := ∀ c ∈ t.costs, c ≤ n

theorem Within.mono {m n : Nat} {t : ParseTree} (h : t.Within m) (hmn : m ≤ n) : t.Within n :=
  fun c hc => (h c hc).trans hmn

theorem costs_ne_nil (t : ParseTree) : t.costs ≠ [] := by
  induction t with
  | leaf c => simp [costs]
  | group t ih => simpa [costs] using ih
  | not t ih => simpa [costs] using ih
  | link k l r ihl _ => simp [costs, ihl]

/-- Costs that were raised by `k` stay within `n` exactly if `k` can be taken off `n`. -/
theorem forall_mem_map_add_le_iff {cs : List Nat} {k n : Nat} (h : cs ≠ []) :
    (∀ c ∈ cs.map (· + k), c ≤ n) ↔ ∃ m, n = m + k ∧ ∀ c ∈ cs, c ≤ m := by
  constructor
  · intro hle
    obtain ⟨c, cs, rfl⟩ := List.exists_cons_of_ne_nil h
    have hc : c + k ≤ n := hle _ (by simp)
    refine ⟨n - k, by omega, fun x hx => ?_⟩
    have := hle (x + k) (List.mem_map_of_mem hx)
    omega
  · rintro ⟨m, rfl, hle⟩ x hx
    obtain ⟨c, hc, rfl⟩ := List.mem_map.1 hx
    exact Nat.add_le_add_right (hle c hc) k

@[simp] theorem within_leaf (n : Nat) (c : Comparison) : (leaf c).Within n := by
  simp [Within, costs]

theorem within_group {n : Nat} {t : ParseTree} :
    (group t).Within n ↔ ∃ m, n = m + 1 ∧ t.Within m :=
  forall_mem_map_add_le_iff t.costs_ne_nil

theorem within_not {n : Nat} {t : ParseTree} :
    (not t).Within n ↔ ∃ m, n = m + 1 ∧ t.Within m :=
  forall_mem_map_add_le_iff t.costs_ne_nil

theorem within_link {n : Nat} {k : Chain} {l r : ParseTree} :
    (link k l r).Within n ↔ l.Within n ∧ ∃ m, n = m + (l.links k + 1) ∧ r.Within m := by
  simp only [Within, costs, List.forall_mem_append,
    forall_mem_map_add_le_iff r.costs_ne_nil]

end ParseTree

/-! ### Derivations -/

/-- `s` begins with the comparison `c` and goes on with `rest`: a field of the schema, alone or
with an operator and a pattern, such that the rule of the field allows the operator. -/
inductive IsComparison (schema : Schema) : List Char → Comparison → List Char → Prop
  /-- No operator follows the field. -/
  | test {name rest : List Char} {field : Field} {rule : FieldRule} :
      IsFieldName name rest → (∀ t, Padded rest t → NoOperator t) →
      schema.resolve? (String.ofList name) = some (field, rule) → rule.allows .is = true →
      IsComparison schema (name ++ rest) ⟨field, .is, ""⟩ rest
  /-- An operator and a pattern follow the field. -/
  | compare {name m m' u p rest : List Char} {op : Operator} {field : Field} {rule : FieldRule} :
      IsFieldName name m → Padded m (op.symbol.toList ++ m') → IsOperator op m' → Padded m' u →
      IsPattern u p rest → schema.resolve? (String.ofList name) = some (field, rule) →
      rule.allows op = true → IsComparison schema (name ++ m) ⟨field, op, String.ofList p⟩ rest

/-- The nonterminals of the grammar. -/
inductive Nonterminal
  /-- A chain: a disjunction, or a conjunction. -/
  | chain (k : Chain)
  /-- An operand of a conjunction. -/
  | not
  /-- A group or a comparison. -/
  | atom
  deriving DecidableEq, Repr

/-- The operands of a chain: those of a disjunction are conjunctions. -/
def Chain.operand : Chain → Nonterminal
  | and => .not
  | or => .chain .and

/-- A nonterminal derives the front of a text with a tree, and leaves the rest of the text. -/
inductive Derives (schema : Schema) :
    Nonterminal → List Char → ParseTree → List Char → Prop
  /-- The first operand of a chain. -/
  | first {k : Chain} {s rest : List Char} {t : ParseTree} :
      Derives schema k.operand s t rest → Derives schema (.chain k) s t rest
  /-- One more operand of a chain. -/
  | link {k : Chain} {s m m' rest : List Char} {l r : ParseTree} :
      Derives schema (.chain k) s l m → Padded m (k.symbol :: m') →
      Derives schema k.operand m' r rest → Derives schema (.chain k) s (.link k l r) rest
  /-- A negation. -/
  | negation {s s' rest : List Char} {t : ParseTree} :
      Padded s ('!' :: s') → Derives schema .not s' t rest → Derives schema .not s (.not t) rest
  /-- An operand without a negation. -/
  | plain {s rest : List Char} {t : ParseTree} :
      Derives schema .atom s t rest → Derives schema .not s t rest
  /-- A group. -/
  | group {s s' m rest : List Char} {t : ParseTree} :
      Padded s ('(' :: s') → Derives schema (.chain .or) s' t m → Padded m (')' :: rest) →
      Derives schema .atom s (.group t) rest
  /-- A comparison. -/
  | comparison {s s' rest : List Char} {c : Comparison} :
      Padded s s' → IsComparison schema s' c rest → Derives schema .atom s (.leaf c) rest

/-- The grammar derives a whole text; after the last token white space of any sort may stand. -/
def Sentence (schema : Schema) (s : List Char) (t : ParseTree) : Prop :=
  ∃ rest, Derives schema (.chain .or) s t rest ∧ ∀ c ∈ rest, isWhiteSpace c = true

/-! ### First facts on derivations -/

variable {schema : Schema} {s s' rest : List Char} {t : ParseTree} {k : Nonterminal}

theorem IsComparison.exists_cons {c : Comparison} (h : IsComparison schema s c rest) :
    ∃ x xs, s = x :: xs ∧ isFieldStart x = true := by
  cases h with
  | test hn =>
    obtain ⟨x, xs, rfl, hx⟩ := hn.exists_cons
    exact ⟨x, _, rfl, hx⟩
  | compare hn =>
    obtain ⟨x, xs, rfl, hx⟩ := hn.exists_cons
    exact ⟨x, _, rfl, hx⟩

theorem IsComparison.padded_iff {c : Comparison} (h : IsComparison schema s' c rest) :
    Padded s s' ↔ skipBlanks s = s' := by
  obtain ⟨x, xs, rfl, hx⟩ := h.exists_cons
  exact padded_cons_iff (isBlank_eq_false_of_isFieldStart hx)

theorem IsComparison.notNext {c : Comparison} {x : Char} (h : IsComparison schema s' c rest)
    (hs : Padded s s') (hx : isFieldStart x = false) : NotNext x s := by
  intro u hu
  obtain ⟨y, ys, rfl, hy⟩ := h.exists_cons
  rw [h.padded_iff.1 hs] at hu
  obtain ⟨rfl, -⟩ := List.cons.inj hu
  rw [hx] at hy
  cases hy

/-- Blanks before a derivation do not count. -/
theorem Derives.of_skipBlanks_eq (h : Derives schema k s t rest)
    (hs : skipBlanks s' = skipBlanks s) : Derives schema k s' t rest := by
  induction h with
  | first _ ih => exact .first (ih hs)
  | link _ hsym hr ih => exact .link (ih hs) hsym hr
  | negation hsym h => exact .negation (hsym.of_skipBlanks_eq (by decide) hs) h
  | plain _ ih => exact .plain (ih hs)
  | group hsym h hclose => exact .group (hsym.of_skipBlanks_eq (by decide) hs) h hclose
  | comparison hp hc => exact .comparison (hc.padded_iff.2 (hs.trans (hc.padded_iff.1 hp))) hc

theorem Chain.isBlank_symbol (k : Chain) : isBlank k.symbol = false := by
  cases k <;> rfl

theorem Derives.links_not (h : Derives schema .not s t rest) (k : Chain) : t.links k = 0 := by
  cases h with
  | negation => rfl
  | plain h => cases h <;> rfl

theorem Derives.links_operand {k : Chain} (h : Derives schema k.operand s t rest) :
    t.links k = 0 := by
  cases k with
  | and => exact h.links_not .and
  | or =>
    cases h with
    | first h => exact h.links_not .or
    | link => rfl

end FleetQuery
