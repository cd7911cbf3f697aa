import FleetQuery.Entity.Container
import FleetQuery.Proofs.Filter.Comparison
import FleetQuery.Proofs.Filter.Reading

/-!
# Patterns without quotes

A pattern without quotes cannot hold what separates tokens: blanks, parentheses, `&` and `|`.
Whatever else is written behind an operator could be the pattern, but a bare pattern ends at white
space of any sort, while between tokens only blanks are skipped.  So the other white space neither
belongs to a pattern nor separates it from what follows.

* `isPlain` : the characters that separate no tokens;
* `Unquoted` : a field, an operator and a text of plain characters that could be the pattern;
* `Unquoted.comparison_eq` : the pattern that is read there is the longest run of bare characters;
* `parseFilter_unquoted` : **the text is read as the pattern exactly if it has no white space**; if
  all its white space is at the end, the filter is read without it, and else it is refused;
* `parseFilter_unquoted_noBreakSpace` : a no-break space inside such a text, and one at its end.
-/

namespace FleetQuery

/-- A character that separates no tokens: no blank, no parenthesis, no `|` and no `&`. -/
def isPlain (c : Char) : Bool := !isBlank c && !(c == '(' || c == ')' || c == '|' || c == '&')

/-- A field name, an operator and a text that could be the pattern. -/
structure Unquoted (schema : Schema) (name : List Char) (op : Operator) (v : List Char)
    (field : Field) : Prop where
  /-- The name is a field name. -/
  isFieldName : IsFieldName name []
  /-- The name stands for the field, by a rule that allows the operator. -/
  rule : ∃ rule, schema.resolve? (String.ofList name) = some (field, rule) ∧ rule.allows op = true
  /-- No longer symbol stands before the text. -/
  operator : IsOperator op v
  /-- There is a text. -/
  ne_nil : v ≠ []
  /-- No character of the text separates tokens. -/
  plain : ∀ c ∈ v, isPlain c = true
  /-- The text does not begin with a quote. -/
  quote : ∀ c ∈ v.head?, c ≠ '\'' ∧ c ≠ '"'

variable {schema : Schema} {name v p w : List Char} {op : Operator} {field : Field} {e : Expr}

theorem isBareChar_eq (c : Char) : isBareChar c = (isPlain c && !isWhiteSpace c) := by
  cases hblank : isBlank c with
  | true => simp [isBareChar, isPlain, hblank, isWhiteSpace_of_isBlank hblank]
  | false => simp [isBareChar, isPlain, hblank, Bool.and_comm]

theorem isBlank_eq_false_of_isPlain {c : Char} (h : isPlain c = true) : isBlank c = false := by
  simp only [isPlain, Bool.and_eq_true, Bool.not_eq_true'] at h
  exact h.1

/-- In a text of plain characters the longest run of bare ones goes up to the first white space. -/
theorem longestRun_isBareChar_iff (hplain : ∀ c ∈ p ++ w, isPlain c = true) :
    LongestRun isBareChar p w ↔
      (∀ c ∈ p, isWhiteSpace c = false) ∧ ∀ c ∈ w.head?, isWhiteSpace c = true := by
  have hbare : ∀ c ∈ p ++ w, isBareChar c = !isWhiteSpace c := by
    intro c hc
    rw [isBareChar_eq, hplain c hc, Bool.true_and]
  have hrun : ∀ c ∈ p, isBareChar c = true ↔ isWhiteSpace c = false := by
    intro c hc
    simp [hbare c (List.mem_append_left w hc)]
  have hend : ∀ c ∈ w.head?, isBareChar c = false ↔ isWhiteSpace c = true := by
    intro c hc
    simp [hbare c (List.mem_append_right p (List.mem_of_mem_head? hc))]
  exact and_congr (forall₂_congr hrun) (forall₂_congr hend)

/-- White space in a text of plain characters hides the symbols behind it. -/
theorem notNext_of_plain {d : Char} (hplain : ∀ c ∈ w, isPlain c = true)
    (hwhite : ∀ c ∈ w.head?, isWhiteSpace c = true) (hd : isWhiteSpace d = false) :
    NotNext d w := by
  obtain - | ⟨c, w⟩ := w
  · exact notNext_of_isWhiteSpace (by simp) hd
  · have hblank := isBlank_eq_false_of_isPlain (hplain c List.mem_cons_self)
    refine notNext_of_padded (Padded.refl (c :: w)) hblank ?_
    rintro rfl
    rw [hwhite c rfl] at hd
    cases hd

namespace Unquoted

theorem skipBlanks_eq (h : Unquoted schema name op v field) : skipBlanks v = v := by
  obtain ⟨c, v, rfl⟩ := List.exists_cons_of_ne_nil h.ne_nil
  exact skipBlanks_cons (isBlank_eq_false_of_isPlain (h.plain c List.mem_cons_self))

theorem comparison_eq (h : Unquoted schema name op v field) :
    comparison schema (name ++ (op.symbol.toList ++ v)) =
      match v.takeWhile isBareChar with
      | [] => .error ⟨.malformed .expectedValue, v⟩
      | p => .ok (.leaf ⟨field, op, String.ofList p⟩, v.dropWhile isBareChar) := by
  obtain ⟨rule, hresolve, hallows⟩ := h.rule
  have hname : fieldName? (name ++ (op.symbol.toList ++ v)) =
      some (name, op.symbol.toList ++ v) :=
    fieldName?_eq_some_iff.2
      ⟨rfl, h.isFieldName.before (Operator.isFieldChar_head?_symbol h.operator.1)⟩
  have hskip : skipBlanks (op.symbol.toList ++ v) = op.symbol.toList ++ v :=
    (padded_symbol_iff h.operator.1).1 (Padded.refl _)
  have hop : operator? (op.symbol.toList ++ v) = some (op, v) :=
    operator?_eq_some_iff.2 ⟨rfl, h.operator⟩
  simp only [comparison, hname, hresolve, hskip, hop, checkOperator_of_allows hallows,
    h.skipBlanks_eq, pattern_of_not_quote h.quote]
  cases v.takeWhile isBareChar <;> rfl

/-- Nothing of the text is left to another token, so the whole filter is this comparison. -/
theorem parseChain_eq (h : Unquoted schema name op v field) (n : Nat) :
    parseChain schema .or n (name ++ (op.symbol.toList ++ v)) =
      comparison schema (name ++ (op.symbol.toList ++ v)) := by
  obtain ⟨x, xs, hname, hx⟩ := h.isFieldName.exists_cons
  have hfront :
      Padded (name ++ (op.symbol.toList ++ v)) (x :: (xs ++ (op.symbol.toList ++ v))) := by
    rw [hname]
    exact Padded.refl _
  have hblank : isBlank x = false := isBlank_eq_false_of_isFieldStart hx
  have hsymbol : ∀ d, isFieldStart d = false → NotNext d (name ++ (op.symbol.toList ++ v)) := by
    intro d hd
    refine notNext_of_padded hfront hblank ?_
    rintro rfl
    rw [hx] at hd
    cases hd
  have hskip : skipBlanks (name ++ (op.symbol.toList ++ v)) = name ++ (op.symbol.toList ++ v) := by
    rw [hname]
    exact skipBlanks_cons hblank
  -- what follows the pattern begins with white space, which no chain skips
  have hrun := longestRun_takeWhile isBareChar v
  have hsplit : v.takeWhile isBareChar ++ v.dropWhile isBareChar = v :=
    List.takeWhile_append_dropWhile
  have hplain := h.plain
  rw [← hsplit] at hplain
  have hwhite := ((longestRun_isBareChar_iff hplain).1 hrun).2
  have hrest : ∀ c ∈ v.dropWhile isBareChar, isPlain c = true :=
    fun c hc => hplain c (List.mem_append_right _ hc)
  rw [parseChain, parseOperand,
    parseNot_comparison (hsymbol '!' (by decide)) (hsymbol '(' (by decide)), hskip,
    h.comparison_eq]
  cases v.takeWhile isBareChar with
  | nil => rfl
  | cons c p =>
    have hstop : ∀ (k : Chain) (e : Expr),
        parseLinks schema k n e (v.dropWhile isBareChar) = .ok (e, v.dropWhile isBareChar) :=
      fun k _ => parseLinks_stop (notNext_of_plain hrest hwhite (by cases k <;> decide))
    simp only [except_ok_bind, hstop]

theorem parseFilter_eq_ok_iff (h : Unquoted schema name op v field) :
    parseFilter schema (String.ofList (name ++ (op.symbol.toList ++ v))) = .ok e ↔
      ∃ p w, v = p ++ w ∧ p ≠ [] ∧ LongestRun isBareChar p w ∧
        (∀ c ∈ w, isWhiteSpace c = true) ∧ e = .leaf ⟨field, op, String.ofList p⟩ := by
  rw [FleetQuery.parseFilter_eq_ok_iff, String.toList_ofList, h.parseChain_eq, h.comparison_eq]
  constructor
  · rintro ⟨w, hread, hwhite⟩
    cases hp : v.takeWhile isBareChar with
    | nil =>
      rw [hp] at hread
      cases hread
    | cons c p =>
      rw [hp] at hread
      obtain ⟨rfl, rfl⟩ := Prod.mk.inj (Except.ok.inj hread)
      obtain ⟨hv, hrun⟩ := takeWhile_dropWhile_iff.1 ⟨hp, rfl⟩
      exact ⟨c :: p, _, hv, List.cons_ne_nil c p, hrun, hwhite, rfl⟩
  · rintro ⟨p, w, rfl, hp, hrun, hwhite, rfl⟩
    obtain ⟨c, p, rfl⟩ := List.exists_cons_of_ne_nil hp
    exact ⟨w, by rw [hrun.takeWhile_eq, hrun.dropWhile_eq], hwhite⟩

end Unquoted

/-- **A text without quotes as a pattern.**  Behind a field and an operator, a text of characters
that separate no tokens is read as the pattern exactly if it has no white space.  The filter is
accepted exactly if white space stands only at the end of the text, behind something else, and what
stands before it is the pattern. -/
theorem parseFilter_unquoted (h : Unquoted schema name op v field) :
    (parseFilter schema (String.ofList (name ++ (op.symbol.toList ++ v))) =
        .ok (.leaf ⟨field, op, String.ofList v⟩) ↔ ∀ c ∈ v, isWhiteSpace c = false) ∧
    ∀ e, parseFilter schema (String.ofList (name ++ (op.symbol.toList ++ v))) = .ok e ↔
      ∃ p w, v = p ++ w ∧ p ≠ [] ∧ (∀ c ∈ p, isWhiteSpace c = false) ∧
        (∀ c ∈ w, isWhiteSpace c = true) ∧ e = .leaf ⟨field, op, String.ofList p⟩ := by
  have haccept : ∀ e, parseFilter schema (String.ofList (name ++ (op.symbol.toList ++ v))) = .ok e ↔
      ∃ p w, v = p ++ w ∧ p ≠ [] ∧ (∀ c ∈ p, isWhiteSpace c = false) ∧
        (∀ c ∈ w, isWhiteSpace c = true) ∧ e = .leaf ⟨field, op, String.ofList p⟩ := by
    intro e
    rw [h.parseFilter_eq_ok_iff]
    constructor
    · rintro ⟨p, w, rfl, hp, hrun, hwhite, he⟩
      exact ⟨p, w, rfl, hp, ((longestRun_isBareChar_iff h.plain).1 hrun).1, hwhite, he⟩
    · rintro ⟨p, w, rfl, hp, hbare, hwhite, he⟩
      have hend : ∀ c ∈ w.head?, isWhiteSpace c = true :=
        fun c hc => hwhite c (List.mem_of_mem_head? hc)
      exact ⟨p, w, rfl, hp, (longestRun_isBareChar_iff h.plain).2 ⟨hbare, hend⟩, hwhite, he⟩
  refine ⟨?_, haccept⟩
  rw [haccept]
  constructor
  · rintro ⟨p, w, hv, -, hbare, -, he⟩
    -- the pattern is the whole text, so no white space is left behind it
    simp only [Expr.leaf.injEq, Comparison.mk.injEq, true_and] at he
    obtain rfl : v = p := String.ofList_injective he
    exact hbare
  · intro hbare
    exact ⟨v, [], by simp, h.ne_nil, hbare, by simp, rfl⟩

/-- Quotes and symbols inside the text, and white space behind it that is no blank. -/
theorem parseFilter_unquoted_quotes :
    let name := "label.x.y/z".toList
    let v := "é'b\"!=~x".toList
    let w := "é'b\"!=~x\u3000".toList
    let field : Field := .member "label" "x.y/z"
    Unquoted Container.schema name .like v field ∧ Unquoted Container.schema name .like w field ∧
      parseFilter Container.schema (String.ofList (name ++ (Operator.like.symbol.toList ++ v))) =
        .ok (.leaf ⟨field, .like, "é'b\"!=~x"⟩) ∧
      parseFilter Container.schema (String.ofList (name ++ (Operator.like.symbol.toList ++ w))) =
        .ok (.leaf ⟨field, .like, "é'b\"!=~x"⟩) := by
  intro name v w field
  have hname : IsFieldName name [] := ((fieldName?_eq_some_iff (s := name)).1 (by decide)).2
  have hrule : ∃ rule, Container.schema.resolve? (String.ofList name) = some (field, rule) ∧
      rule.allows .like = true :=
    ⟨⟨.family "label", [.is, .eq, .like]⟩, by decide, by decide⟩
  have hoperator {m : List Char} (hm : m.head? = some 'é') : IsOperator .like m :=
    isOperator_of_head? (by decide) (by simp [hm])
  have hv : Unquoted Container.schema name .like v field :=
    ⟨hname, hrule, hoperator rfl, by decide, List.all_eq_true.1 (by decide), by simp [v]⟩
  have hw : Unquoted Container.schema name .like w field :=
    ⟨hname, hrule, hoperator rfl, by decide, List.all_eq_true.1 (by decide), by simp [w]⟩
  have hall : v.all (fun c => !isWhiteSpace c) = true := by decide
  have hbare : ∀ c ∈ v, isWhiteSpace c = false := by simpa using hall
  refine ⟨hv, hw, (parseFilter_unquoted hv).1.2 hbare, ?_⟩
  exact ((parseFilter_unquoted hw).2 _).2
    ⟨v, ['\u3000'], by decide, by decide, hbare, List.forall_mem_singleton.2 (by decide), rfl⟩

/-- A no-break space is no blank and separates no tokens.  Inside the text it makes the filter
refused, and at the end it gets lost. -/
theorem parseFilter_unquoted_noBreakSpace :
    Unquoted Container.schema "name".toList .eq "a\u00a0b".toList (.named "name") ∧
      parseFilter Container.schema (String.ofList
          ("name".toList ++ (Operator.eq.symbol.toList ++ "a\u00a0b".toList))) =
        .error ⟨.malformed (.unexpected 'b'), 8, "name=a\u00a0b"⟩ ∧
      Unquoted Container.schema "name".toList .eq "a\u00a0".toList (.named "name") ∧
      parseFilter Container.schema (String.ofList
          ("name".toList ++ (Operator.eq.symbol.toList ++ "a\u00a0".toList))) =
        .ok (.leaf ⟨.named "name", .eq, "a"⟩) := by
  have hname : IsFieldName "name".toList [] :=
    ((fieldName?_eq_some_iff (s := "name".toList)).1 (by decide)).2
  have hrule : ∃ rule, Container.schema.resolve? (String.ofList "name".toList) =
      some (.named "name", rule) ∧ rule.allows .eq = true :=
    ⟨⟨.exact "name", [.eq, .like]⟩, rfl, rfl⟩
  have hoperator {m : List Char} (hm : m.head? = some 'a') : IsOperator .eq m :=
    isOperator_of_head? (by decide) (by simp [hm])
  exact ⟨
    ⟨hname, hrule, hoperator rfl, by decide, List.all_eq_true.1 (by decide), by simp⟩, rfl,
    ⟨hname, hrule, hoperator rfl, by decide, List.all_eq_true.1 (by decide), by simp⟩, rfl⟩

end FleetQuery
