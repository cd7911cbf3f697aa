import FleetQuery.Entity.Container
import FleetQuery.Proofs.Filter.Display
import FleetQuery.Proofs.Filter.Place
import FleetQuery.Proofs.Text.Quoted

/-!
# The normal form tells filters apart

Patterns are escaped in the normal form, so it need not be a filter with the same patterns, and in
general nothing is got back by reading it.  Still it shows the whole tree: two filters that were
read for one schema and have the same normal form are the same expression.

* `Comparison.Shown` : what reading makes sure of, and what a comparison needs to be told from its
  text: its field is found again by name, and only an operator has a pattern;
* `Comparison.display_unambiguous`, `Expr.display_unambiguous` : the text tells the comparison, the
  expression, and where it ends;
* `display_eq_iff` : **accepted filters have the same normal form only if they are the same.**
-/

namespace FleetQuery

variable {schema : Schema} {c c' : Comparison} {e e' l r : Expr} {s u v : List Char}

/-! ### Comparisons -/

/-- A comparison that its text tells, if the schema is known. -/
structure Comparison.Shown (schema : Schema) (c : Comparison) : Prop where
  /-- The field is written as a field name. -/
  name : IsFieldName c.field.display.toList []
  /-- The name stands for the field. -/
  field : ∃ rule, schema.resolve? c.field.display = some (c.field, rule)
  /-- The existence test takes no pattern. -/
  test : c.op = .is → c.pattern = ""

theorem IsComparison.shown (h : IsComparison schema s c u) : c.Shown schema := by
  obtain ⟨⟨rest, -, hname⟩, ⟨rule, hresolve, -⟩, htest⟩ := h.validated
  exact ⟨hname.before (by simp), ⟨rule, hresolve⟩, htest⟩

theorem Comparison.Shown.field_eq (h : c.Shown schema) (h' : c'.Shown schema)
    (hname : c.field.display.toList = c'.field.display.toList) : c.field = c'.field := by
  obtain ⟨rule, hresolve⟩ := h.field
  obtain ⟨rule', hresolve'⟩ := h'.field
  rw [String.toList_injective hname, hresolve'] at hresolve
  exact (Prod.mk.inj (Option.some.inj hresolve)).1.symm

/-- What follows the field in the text of a comparison. -/
def Comparison.tail (c : Comparison) : List Char :=
  match c.op with
  | .is => []
  | op => op.symbol.toList ++ '"' :: (c.pattern.toList.flatMap quotedChar ++ ['"'])

theorem Comparison.tail_of_ne (h : c.op ≠ .is) :
    c.tail = c.op.symbol.toList ++ '"' :: (c.pattern.toList.flatMap quotedChar ++ ['"']) := by
  obtain ⟨field, op, pattern⟩ := c
  cases op <;> first | exact absurd rfl h | rfl

theorem Comparison.display_toList (c : Comparison) :
    c.display.toList = c.field.display.toList ++ c.tail := by
  by_cases h : c.op = .is
  · simp [display, tail, h]
  · simp [display_of_ne h, tail_of_ne h, quotedText]

theorem Comparison.Shown.isFieldName (h : c.Shown schema) (hu : Boundary u) :
    IsFieldName c.field.display.toList (c.tail ++ u) := by
  refine h.name.before ?_
  by_cases hop : c.op = .is
  · simpa [tail, hop] using hu.field
  · rw [tail_of_ne hop, List.append_assoc]
    exact Operator.isFieldChar_head?_symbol hop

theorem Comparison.operator?_tail (c : Comparison) (hu : Boundary u) :
    operator? (c.tail ++ u) =
      if c.op = .is then none
      else some (c.op, '"' :: (c.pattern.toList.flatMap quotedChar ++ '"' :: u)) := by
  split_ifs with hop
  · rw [operator?_eq_none_iff]
    simpa [tail, hop] using hu.noOperator (Padded.refl u)
  · rw [operator?_eq_some_iff, tail_of_ne hop]
    refine ⟨by simp, isOperator_of_head? hop ?_⟩
    rintro x ⟨⟩
    decide

/-- **The text of a comparison tells the comparison, and where it ends.** -/
theorem Comparison.display_unambiguous (h : c.Shown schema) (h' : c'.Shown schema)
    (hu : Boundary u) (hv : Boundary v) (heq : c.display.toList ++ u = c'.display.toList ++ v) :
    c = c' ∧ u = v := by
  rw [display_toList, display_toList, List.append_assoc, List.append_assoc] at heq
  have hread := fieldName?_eq_some_iff.2 ⟨rfl, h.isFieldName hu⟩
  rw [heq, fieldName?_eq_some_iff.2 ⟨rfl, h'.isFieldName hv⟩] at hread
  obtain ⟨hname, htail⟩ := Prod.mk.inj (Option.some.inj hread)
  have hfield : c.field = c'.field := h.field_eq h' hname.symm
  have hop : operator? (c.tail ++ u) = operator? (c'.tail ++ v) := by rw [htail]
  rw [operator?_tail c hu, operator?_tail c' hv] at hop
  obtain ⟨field, op, pattern⟩ := c
  obtain ⟨field', op', pattern'⟩ := c'
  obtain rfl : field = field' := hfield
  by_cases his : op = .is <;> by_cases his' : op' = .is <;>
    simp only [his, his', if_true, if_false, reduceCtorEq] at hop
  · subst his his'
    obtain rfl : pattern = "" := h.test rfl
    obtain rfl : pattern' = "" := h'.test rfl
    exact ⟨rfl, htail.symm⟩
  · obtain ⟨rfl, hrest⟩ := Prod.mk.inj (Option.some.inj hop)
    obtain ⟨hpattern, rfl⟩ := flatMap_quotedChar_inj (List.cons.inj hrest).2
    rw [String.toList_injective hpattern]
    exact ⟨rfl, rfl⟩

theorem Comparison.Shown.display_append_ne (h : c.Shown schema) {x : Char}
    (hx : isFieldStart x = false) : c.display.toList ++ u ≠ x :: v := by
  obtain ⟨y, ys, hname, hy⟩ := h.name.exists_cons
  rw [display_toList, hname]
  intro heq
  rw [← (List.cons.inj heq).1, hy] at hx
  cases hx

/-! ### Expressions -/

namespace Expr

theorem display_combine_append (k : Chain) (l r : Expr) (u : List Char) :
    (k.combine l r).display.toList ++ u =
      '(' :: (l.display.toList ++ ' ' :: k.symbol :: ' ' :: (r.display.toList ++ ')' :: u)) := by
  rw [display_toList_combine]
  simp

theorem boundary_symbol (k : Chain) (u : List Char) : Boundary (' ' :: k.symbol :: u) :=
  boundary_of_link (k := k) ⟨[' '], by simp [isBlank], rfl⟩

theorem boundary_close (u : List Char) : Boundary (')' :: u) :=
  boundary_of_padded (Padded.refl _) (.inl rfl)

theorem symbol_injective {k k' : Chain} (h : k.symbol = k'.symbol) : k = k' := by
  cases k <;> cases k' <;> first | rfl | exact absurd h (by decide)

/-- **The normal form tells the expression, and where it ends**, by induction on the expression.
Its first character tells a parenthesis, a negation and a comparison apart. -/
theorem display_unambiguous (h : ∀ c ∈ e.leaves, c.Shown schema)
    (h' : ∀ c ∈ e'.leaves, c.Shown schema) (hu : Boundary u) (hv : Boundary v)
    (heq : e.display.toList ++ u = e'.display.toList ++ v) : e = e' ∧ u = v := by
  induction e using induction_combine generalizing e' u v with
  | combine k l r ihl ihr =>
    rw [leaves_combine, List.forall_mem_append] at h
    rw [display_combine_append] at heq
    induction e' using induction_combine with
    | combine k' l' r' =>
      rw [leaves_combine, List.forall_mem_append] at h'
      rw [display_combine_append] at heq
      obtain ⟨rfl, hrest⟩ := ihl h.1 h'.1 (boundary_symbol k _) (boundary_symbol k' _)
        (List.cons.inj heq).2
      obtain ⟨hsymbol, hright⟩ := List.cons.inj (List.cons.inj hrest).2
      obtain ⟨rfl, hclose⟩ := ihr h.2 h'.2 (boundary_close u) (boundary_close v)
        (List.cons.inj hright).2
      rw [symbol_injective hsymbol]
      exact ⟨rfl, (List.cons.inj hclose).2⟩
    | not e' => simp [display] at heq
    | leaf c' => exact absurd heq.symm ((h' c' (by simp [leaves])).display_append_ne rfl)
  | not e ih =>
    rw [display_toList_not] at heq
    induction e' using induction_combine with
    | combine k' l' r' =>
      rw [display_combine_append] at heq
      simp at heq
    | not e' =>
      rw [display_toList_not] at heq
      have hleaves : ∀ c ∈ e'.leaves, c.Shown schema := h'
      obtain ⟨rfl, rfl⟩ := ih h hleaves hu hv (List.cons.inj heq).2
      exact ⟨rfl, rfl⟩
    | leaf c' => exact absurd heq.symm ((h' c' (by simp [leaves])).display_append_ne rfl)
  | leaf c =>
    have hc := h c (by simp [leaves])
    induction e' using induction_combine with
    | combine k' l' r' =>
      rw [display_combine_append] at heq
      exact absurd heq (hc.display_append_ne rfl)
    | not e' =>
      rw [display_toList_not] at heq
      exact absurd heq (hc.display_append_ne rfl)
    | leaf c' =>
      obtain ⟨rfl, rfl⟩ :=
        Comparison.display_unambiguous hc (h' c' (by simp [leaves])) hu hv heq
      exact ⟨rfl, rfl⟩

end Expr

/-- **Accepted filters have the same normal form only if they are the same expression**, whatever
characters their patterns hold. -/
theorem display_eq_iff {schema : Schema} {input input' : String} {e e' : Expr}
    (h : parseFilter schema input = .ok e) (h' : parseFilter schema input' = .ok e') :
    e.display = e'.display ↔ e = e' := by
  refine ⟨fun heq => ?_, fun heq => heq ▸ rfl⟩
  have hshown : ∀ {input : String} {e : Expr}, parseFilter schema input = .ok e →
      ∀ c ∈ e.leaves, c.Shown schema := by
    intro input e h c hc
    obtain ⟨u, m, hcomparison⟩ := exists_isComparison_of_mem_leaves h hc
    exact hcomparison.shown
  exact (Expr.display_unambiguous (hshown h) (hshown h') boundary_nil boundary_nil (heq ▸ rfl)).1

/-- A quote, a line feed and a combining accent are told from a quote, a backslash, an `n` and the
accent, though none of these characters but the `n` is shown as it is. -/
theorem display_eq_iff_escapes :
    let input := "running & name~'\"\n\u0301'"
    let input' := "( running )&name ~'\"\\n\u0301' "
    let e : Expr := .and (.leaf ⟨.named "running", .is, ""⟩)
      (.leaf ⟨.named "name", .like, "\"\n\u0301"⟩)
    let e' : Expr := .and (.leaf ⟨.named "running", .is, ""⟩)
      (.leaf ⟨.named "name", .like, "\"\\n\u0301"⟩)
    parseFilter Container.schema input = .ok e ∧ parseFilter Container.schema input' = .ok e' ∧
      (e.display = e'.display ↔ e = e') ∧
      e.display = "(running & name~\"\\\"\\n\\u\x7b301\x7d\")" ∧
      e'.display = "(running & name~\"\\\"\\\\n\\u\x7b301\x7d\")" := by
  refine ⟨?h, ?h', display_eq_iff ?h ?h', by decide +kernel, by decide +kernel⟩ <;> rfl

end FleetQuery
