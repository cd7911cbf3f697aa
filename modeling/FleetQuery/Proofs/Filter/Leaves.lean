import FleetQuery.Proofs.Filter.Reading

/-!
# The comparisons of a filter

* `Expr.leaves` : the comparisons of an expression, from left to right;
* `Expr.modifyLeaf` : one of them changed, and everything else as it was;
* `Schema.Accepts` : the schema lets a comparison through;
* `accepts_of_mem_leaves` : every comparison of an accepted filter was let through.
-/

namespace FleetQuery

/-- The comparisons of an expression, from left to right. -/
def Expr.leaves : Expr → List Comparison
  | and l r => l.leaves ++ r.leaves
  | or l r => l.leaves ++ r.leaves
  | not e => e.leaves
  | leaf c => [c]

/-- Change the `i`-th comparison of an expression, counted from zero. -/
def Expr.modifyLeaf (f : Comparison → Comparison) : Expr → Nat → Expr
  | and l r, i =>
    if i < l.leaves.length then and (l.modifyLeaf f i) r
    else and l (r.modifyLeaf f (i - l.leaves.length))
  | or l r, i =>
    if i < l.leaves.length then or (l.modifyLeaf f i) r
    else or l (r.modifyLeaf f (i - l.leaves.length))
  | not e, i => not (e.modifyLeaf f i)
  | leaf c, i => if i = 0 then leaf (f c) else leaf c

@[elab_as_elim]
theorem Expr.induction_combine {motive : Expr → Prop} (leaf : ∀ c, motive (.leaf c))
    (not : ∀ e, motive e → motive (.not e))
    (combine : ∀ (k : Chain) l r, motive l → motive r → motive (k.combine l r)) (e : Expr) :
    motive e := by
  induction e with
  | leaf c => exact leaf c
  | not e ih => exact not e ih
  | and l r ihl ihr => exact combine .and l r ihl ihr
  | or l r ihl ihr => exact combine .or l r ihl ihr

theorem Expr.leaves_combine (k : Chain) (l r : Expr) :
    (k.combine l r).leaves = l.leaves ++ r.leaves := by
  cases k <;> rfl

theorem Expr.modifyLeaf_combine (f : Comparison → Comparison) (k : Chain) (l r : Expr) (i : Nat) :
    (k.combine l r).modifyLeaf f i =
      if i < l.leaves.length then k.combine (l.modifyLeaf f i) r
      else k.combine l (r.modifyLeaf f (i - l.leaves.length)) := by
  cases k <;> rfl

theorem modify_append {α : Type} (f : α → α) (xs ys : List α) (i : Nat) :
    (xs ++ ys).modify i f =
      if i < xs.length then xs.modify i f ++ ys else xs ++ ys.modify (i - xs.length) f := by
  induction xs generalizing i with
  | nil => simp
  | cons x xs ih =>
    cases i with
    | zero => simp
    | succ i =>
      simp only [List.cons_append, List.modify_succ_cons, ih, List.length_cons]
      split_ifs with h h' h'
      · rfl
      · omega
      · omega
      · simp

theorem Expr.leaves_modifyLeaf (f : Comparison → Comparison) (e : Expr) (i : Nat) :
    (e.modifyLeaf f i).leaves = e.leaves.modify i f := by
  induction e generalizing i with
  | and l r ihl ihr | or l r ihl ihr =>
    rw [modifyLeaf, leaves, modify_append]
    split_ifs with h
    · rw [leaves, ihl]
    · rw [leaves, ihr]
  | not e ih => exact ih i
  | leaf c => cases i <;> simp [modifyLeaf, leaves]

@[simp] theorem Expr.length_leaves_modifyLeaf (f : Comparison → Comparison) (e : Expr) (i : Nat) :
    (e.modifyLeaf f i).leaves.length = e.leaves.length := by
  rw [leaves_modifyLeaf, List.length_modify]

/-- Some name denotes the field of the comparison, by a rule that allows its operator. -/
def Schema.Accepts (schema : Schema) (c : Comparison) : Prop :=
  ∃ name rule, schema.resolve? name = some (c.field, rule) ∧ rule.allows c.op = true

variable {schema : Schema} {c : Comparison}

theorem IsComparison.accepts {s rest : List Char} (h : IsComparison schema s c rest) :
    schema.Accepts c := by
  cases h with
  | test _ _ hresolve hallows => exact ⟨_, _, hresolve, hallows⟩
  | compare _ _ _ _ _ hresolve hallows => exact ⟨_, _, hresolve, hallows⟩

theorem Derives.exists_isComparison {k : Nonterminal} {s rest : List Char} {t : ParseTree}
    (h : Derives schema k s t rest) (hc : c ∈ t.expr.leaves) :
    ∃ u m, IsComparison schema u c m := by
  induction h with
  | first _ ih | plain _ ih => exact ih hc
  | link _ _ _ ihl ihr =>
    rw [ParseTree.expr, Expr.leaves_combine] at hc
    rcases List.mem_append.1 hc with hl | hr
    · exact ihl hl
    · exact ihr hr
  | negation _ _ ih | group _ _ _ ih => exact ih hc
  | comparison _ h =>
    obtain rfl := List.mem_singleton.1 hc
    exact ⟨_, _, h⟩

theorem exists_isComparison_of_mem_leaves {input : String} {e : Expr}
    (h : parseFilter schema input = .ok e) (hc : c ∈ e.leaves) :
    ∃ u m, IsComparison schema u c m := by
  obtain ⟨t, ⟨rest, ht, -⟩, rfl, -⟩ := exists_sentence_of_parseFilter h
  exact ht.exists_isComparison hc

/-- The schema has let every comparison of an accepted filter through. -/
theorem accepts_of_mem_leaves {input : String} {e : Expr}
    (h : parseFilter schema input = .ok e) (hc : c ∈ e.leaves) : schema.Accepts c := by
  obtain ⟨u, m, hcomparison⟩ := exists_isComparison_of_mem_leaves h hc
  exact hcomparison.accepts

end FleetQuery
