import FleetQuery.Proofs.Filter.Boundary

/-!
# Comparisons put together

The token lemmas say what a reader finds in a given text.  Here a text is put together from tokens
that are chosen one by one, and it is a phrase as soon as no token reaches into the next:

* `Phrase.test` : a field alone;
* `Phrase.quoted` : a field, an operator and a pattern between quotes.

Both may stand behind blanks, and in the second one blanks may stand between any two tokens.
-/

namespace FleetQuery

variable {schema : Schema} {k : Nonterminal} {tree : ParseTree} {name m m' p w v x : List Char}
  {op : Operator} {q : Char} {field : Field} {rule : FieldRule}

theorem IsFieldName.before (h : IsFieldName name m) (hm : ∀ c ∈ m'.head?, isFieldChar c = false) :
    IsFieldName name m' := ⟨h.1, h.2.1, hm⟩

/-- A symbol that begins another one goes on with `=` there, so before any other character it is the
longest. -/
theorem isOperator_of_head? (hop : op ≠ .is) (hm : ∀ c ∈ m.head?, c ≠ '=') : IsOperator op m := by
  suffices h : operator? (op.symbol.toList ++ m) = some (op, m) from (operator?_eq_some_iff.1 h).2
  rw [Operator.symbol_toList]
  obtain - | ⟨c, m⟩ := m
  · cases op <;> first | exact absurd rfl hop | rfl
  · have hc := hm c rfl
    cases op <;> first | exact absurd rfl hop | rfl | simp [operator?, hc]

theorem Operator.isFieldChar_head?_symbol (hop : op ≠ .is) :
    ∀ c ∈ (op.symbol.toList ++ m).head?, isFieldChar c = false := by
  rw [symbol_toList]
  cases op <;> first | exact absurd rfl hop | (rintro c ⟨⟩; decide)

theorem ne_equals_of_isBlank {c : Char} (h : isBlank c = true) : c ≠ '=' := by
  rintro rfl
  exact absurd h (by decide)

namespace Phrase

theorem pad (h : Phrase schema k x tree) (hw : ∀ c ∈ w, isBlank c = true) :
    Phrase schema k (w ++ x) tree := by
  intro m hm
  refine (h m hm).of_skipBlanks_eq ?_
  rw [List.append_assoc, skipBlanks_append hw]

theorem test (hname : IsFieldName name []) (hresolve : schema.resolve? (String.ofList name) =
    some (field, rule)) (hallows : rule.allows .is = true) :
    Phrase schema .atom name (.leaf ⟨field, .is, ""⟩) := by
  intro m hm
  exact .comparison ⟨[], by simp, rfl⟩ (.test (hname.before hm.field)
    (fun _ ht => hm.noOperator ht) hresolve hallows)

theorem quoted (hname : IsFieldName name []) (hresolve : schema.resolve? (String.ofList name) =
    some (field, rule)) (hallows : rule.allows op = true) (hop : op ≠ .is)
    (hw : ∀ c ∈ w, isBlank c = true) (hv : ∀ c ∈ v, isBlank c = true)
    (hq : q = '\'' ∨ q = '"') (hp : q ∉ p) :
    Phrase schema .atom (name ++ (w ++ (op.symbol.toList ++ (v ++ (q :: p ++ [q])))))
      (.leaf ⟨field, op, String.ofList p⟩) := by
  intro m _
  have hquote : ∀ c ∈ (q :: p ++ q :: m).head?, c ≠ '=' := by
    rintro c ⟨⟩
    rcases hq with rfl | rfl <;> decide
  have hoperator : IsOperator op (v ++ (q :: p ++ q :: m)) :=
    isOperator_of_head? hop (head?_blanks_append hv (fun _ => ne_equals_of_isBlank) hquote)
  have hfield : IsFieldName name (w ++ (op.symbol.toList ++ (v ++ (q :: p ++ q :: m)))) :=
    hname.before (isFieldChar_head?_blanks hw (Operator.isFieldChar_head?_symbol hop))
  have hcomparison := IsComparison.compare hfield ⟨w, hw, rfl⟩ hoperator ⟨v, hv, rfl⟩
    (.quoted hq hp) hresolve hallows
  refine .comparison ⟨[], by simp, rfl⟩ ?_
  simpa using hcomparison

end Phrase

end FleetQuery
