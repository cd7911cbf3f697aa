import FleetQuery.Entity.Container
import FleetQuery.Proofs.Filter.Boundary
import FleetQuery.Proofs.Filter.Reading
import Mathlib.Order.Bounds.Basic
import Mathlib.Order.Monotone.Basic
import Mathlib.Tactic.Ring

/-!
# The height of accepted filters

The nesting limit bounds what a comparison costs, and this is not the height of the tree above it.
A further operand of a chain pays for its place, but every link also lifts the operands before it
by one level, and those have been paid for.  The first operand of a chain may therefore use all the
levels that are free, and so may the links, at every level of nesting anew.

* `operandHeight n` : the greatest height of an operand within `n` levels, which is quadratic;
* `Derives.height_le` : no derivation within `n` levels is higher;
* `exists_operand` : some operand is as high;
* `isGreatest_height` : **the highest filter of every schema that accepts any** has 65793 levels
  above a comparison;
* `parseFilter_negations_link` : a filter of 257 levels.
-/

namespace FleetQuery

/-- The number of connectives above the deepest comparison. -/
def Expr.height : Expr → Nat
  | and l r => max l.height r.height + 1
  | or l r => max l.height r.height + 1
  | not e => e.height + 1
  | leaf _ => 0

theorem Expr.height_combine (j : Chain) (l r : Expr) :
    (j.combine l r).height = max l.height r.height + 1 := by
  cases j <;> rfl

/-- The greatest height of an operand of a conjunction within a number of levels: it is a negation,
or a group, in which an operand may use all the levels and then be lifted by that many `&` and by
that many `|`. -/
def operandHeight : Nat → Nat
  | 0 => 0
  | n + 1 => max (operandHeight n + 1) (operandHeight n + n + n)

theorem operandHeight_succ (n : Nat) : operandHeight (n + 1) = n * n + n + 1 := by
  induction n with
  | zero => rfl
  | succ n ih =>
    rw [operandHeight, ih]
    have : (n + 1) * (n + 1) = n * n + n + n + 1 := by ring
    omega

theorem operandHeight_mono : Monotone operandHeight := by
  refine monotone_nat_of_le_succ fun n => ?_
  rw [operandHeight]
  omega

/-! ### The bound -/

variable {schema : Schema} {k : Nonterminal} {j : Chain} {s m x : List Char} {t : ParseTree}
  {n : Nat} {c : Comparison}

/-- The last operand of a chain has to pay for every link. -/
theorem ParseTree.Within.links_le (h : t.Within n) (j : Chain) : t.links j ≤ n := by
  cases t with
  | link j' l r =>
    obtain ⟨-, i, rfl, -⟩ := within_link.1 h
    rw [links]
    split_ifs with hj
    · rw [hj]
      exact Nat.le_add_left _ i
    · exact Nat.zero_le _
  | leaf | group | not => exact Nat.zero_le n

/-- How high an operand of a chain may get within `n` levels: one of a disjunction may have been
lifted by that many `&`. -/
def Chain.maxHeight (n : Nat) : Chain → Nat
  | and => operandHeight n
  | or => operandHeight n + n

/-- How high a nonterminal may get within `n` levels by a tree with the given links. -/
def Nonterminal.maxHeight (n : Nat) (t : ParseTree) : Nonterminal → Nat
  | .chain j => j.maxHeight n + t.links j
  | .not => operandHeight n
  | .atom => operandHeight n

theorem Chain.maxHeight_mono {i : Nat} (h : i ≤ n) (j : Chain) :
    j.maxHeight i ≤ j.maxHeight n := by
  have hmono := operandHeight_mono h
  cases j with
  | and => exact hmono
  | or => exact Nat.add_le_add hmono h

theorem maxHeight_operand_le (h : t.Within n) (j : Chain) :
    j.operand.maxHeight n t ≤ j.maxHeight n := by
  cases j with
  | and => exact le_refl _
  | or => exact Nat.add_le_add_left (h.links_le .and) _

/-- **No derivation is higher**, by induction on it: a link lifts the chain before it by one level,
and its other operand has less to spend. -/
theorem Derives.height_le (h : Derives schema k s t m) (hw : t.Within n) :
    t.expr.height ≤ k.maxHeight n t := by
  induction h generalizing n with
  | @first j _ _ _ _ ih =>
    exact ((ih hw).trans (maxHeight_operand_le hw j)).trans (Nat.le_add_right _ _)
  | @link j _ _ _ _ l r _ _ _ ihl ihr =>
    obtain ⟨hwl, i, rfl, hwr⟩ := ParseTree.within_link.1 hw
    have hl := ihl hwl
    have hr := (ihr hwr).trans (maxHeight_operand_le hwr j)
    have hmono := Chain.maxHeight_mono (Nat.le_add_right i (l.links j + 1)) j
    simp only [Nonterminal.maxHeight, ParseTree.expr, ParseTree.links_link,
      Expr.height_combine] at hl ⊢
    omega
  | negation _ _ ih =>
    obtain ⟨i, rfl, hwt⟩ := ParseTree.within_not.1 hw
    have ht := ih hwt
    simp only [Nonterminal.maxHeight, ParseTree.expr, Expr.height, operandHeight] at ht ⊢
    omega
  | plain _ ih => exact ih hw
  | group _ _ _ ih =>
    obtain ⟨i, rfl, hwt⟩ := ParseTree.within_group.1 hw
    have ht := ih hwt
    have hlinks := hwt.links_le .or
    simp only [Nonterminal.maxHeight, Chain.maxHeight, ParseTree.expr, operandHeight] at ht ⊢
    omega
  | comparison => exact Nat.zero_le _

/-! ### The bound is reached -/

theorem exists_chain {y : List Char} (hleaf : Phrase schema .not y (.leaf c))
    (h : Phrase schema j.operand x t) (hw : t.Within n) {i : Nat} (hi : i ≤ n) :
    ∃ x u, Phrase schema (.chain j) x u ∧ u.Within n ∧ u.links j = i ∧
      u.expr.height = t.expr.height + i := by
  induction i with
  | zero => exact ⟨x, t, h.first, hw, (h _ boundary_nil).links_operand, rfl⟩
  | succ i ih =>
    obtain ⟨x, u, hu, hwu, rfl, hheight⟩ := ih (Nat.le_of_succ_le hi)
    refine ⟨_, _, hu.link (w := []) (by simp) hleaf.operand, ?_, ParseTree.links_link j u _, ?_⟩
    · exact ParseTree.within_link.2 ⟨hwu, n - (u.links j + 1), by omega, by simp⟩
    · simp only [ParseTree.expr, Expr.height_combine, Expr.height]
      omega

/-- An operand lifted by all the links that there can be. -/
theorem exists_lifted {y : List Char} (hleaf : Phrase schema .not y (.leaf c))
    (h : Phrase schema .not x t) (hw : t.Within n) :
    ∃ x u, Phrase schema (.chain .or) x u ∧ u.Within n ∧
      u.expr.height = t.expr.height + n + n := by
  obtain ⟨x, u, hu, hwu, -, hheight⟩ := exists_chain (j := .and) hleaf h hw le_rfl
  obtain ⟨x, v, hv, hwv, -, hheight'⟩ := exists_chain (j := .or) hleaf hu hwu le_rfl
  exact ⟨x, v, hv, hwv, hheight ▸ hheight'⟩

/-- **Some operand is as high**, if there is any comparison at all. -/
theorem exists_operand {y : List Char} (hleaf : Phrase schema .not y (.leaf c)) (n : Nat) :
    ∃ x t, Phrase schema .not x t ∧ t.Within n ∧ t.expr.height = operandHeight n := by
  induction n with
  | zero => exact ⟨y, _, hleaf, by simp, rfl⟩
  | succ n ih =>
    obtain ⟨x, t, ht, hwt, hheight⟩ := ih
    rcases max_choice (operandHeight n + 1) (operandHeight n + n + n) with hmax | hmax
    · refine ⟨_, _, ht.negation (w := []) (by simp), ParseTree.within_not.2 ⟨n, rfl, hwt⟩, ?_⟩
      rw [operandHeight, hmax, ParseTree.expr, Expr.height, hheight]
    · obtain ⟨x, u, hu, hwu, hheight'⟩ := exists_lifted hleaf ht hwt
      refine ⟨_, _, (hu.group (w := []) (y := []) (by simp) (by simp)).plain,
        ParseTree.within_group.2 ⟨n, rfl, hwu⟩, ?_⟩
      rw [operandHeight, hmax, ParseTree.expr, hheight', hheight]

/-! ### Whole filters -/

theorem Derives.exists_comparison (h : Derives schema k s t m) :
    ∃ s c m, IsComparison schema s c m := by
  induction h with
  | first _ ih | link _ _ _ ih | negation _ _ ih | plain _ ih | group _ _ _ ih => exact ih
  | comparison _ h => exact ⟨_, _, _, h⟩

theorem IsComparison.operand (h : IsComparison schema s c m) :
    ∃ x, s = x ++ m ∧ Phrase schema .not x (.leaf c) :=
  Derives.phrase (.plain (.comparison ⟨[], by simp, rfl⟩ h))

/-- The heights of the filters that a schema accepts. -/
def Schema.heights (schema : Schema) : Set Nat :=
  {n | ∃ input e, parseFilter schema input = .ok e ∧ e.height = n}

/-- **The highest filter.**  A schema that accepts any filter accepts one that has 65793 connectives
on the way to a comparison, and none with more. -/
theorem isGreatest_height {input : String} {e : Expr} (h : parseFilter schema input = .ok e) :
    IsGreatest schema.heights 65793 := by
  constructor
  · obtain ⟨t, ⟨_, ht, -⟩, -, -⟩ := exists_sentence_of_parseFilter h
    obtain ⟨_, c, _, hc⟩ := ht.exists_comparison
    obtain ⟨y, -, hleaf⟩ := hc.operand
    obtain ⟨x, t, ht, hwt, hheight⟩ := exists_operand hleaf nestingLimit
    obtain ⟨x, u, hu, hwu, hheight'⟩ := exists_lifted hleaf ht hwt
    have hsentence := hu.sentence
    rw [← String.toList_ofList (l := x)] at hsentence
    refine ⟨_, _, hsentence.parseFilter_eq hwu, ?_⟩
    rw [hheight', hheight, nestingLimit, operandHeight_succ]
  · rintro _ ⟨input, e, h, rfl⟩
    obtain ⟨t, ⟨_, ht, -⟩, rfl, hw⟩ := exists_sentence_of_parseFilter h
    have hheight := ht.height_le hw
    have hlinks := hw.links_le .or
    rw [Nonterminal.maxHeight, Chain.maxHeight, nestingLimit, operandHeight_succ] at hheight
    rw [nestingLimit] at hlinks
    omega

theorem isGreatest_height_container :
    parseFilter Container.schema "running" = .ok (.leaf ⟨.named "running", .is, ""⟩) ∧
      IsGreatest Container.schema.heights 65793 :=
  ⟨rfl, isGreatest_height (rfl : parseFilter Container.schema "running" = .ok _)⟩

theorem exists_negations (h : Phrase schema .not x t) (hw : t.Within 0) (n : Nat) :
    ∃ u, Phrase schema .not (List.replicate n '!' ++ x) u ∧ u.Within n ∧
      u.expr.height = t.expr.height + n := by
  induction n with
  | zero => exact ⟨t, h, hw, rfl⟩
  | succ n ih =>
    obtain ⟨u, hu, hwu, hheight⟩ := ih
    exact ⟨.not u, hu.negation (w := []) (by simp), ParseTree.within_not.2 ⟨n, rfl, hwu⟩,
      congrArg (· + 1) hheight⟩

/-- A link lifts a comparison that has used up the 256 levels. -/
theorem parseFilter_negations_link :
    ∃ e, parseFilter Container.schema
        (String.ofList (List.replicate 256 '!' ++ "running&running".toList)) = .ok e ∧
      256 < e.height := by
  have hname : IsFieldName "running".toList [] :=
    (fieldName?_eq_some_iff.1 (rfl : fieldName? "running".toList = _)).2
  have hrunning : IsComparison Container.schema ("running".toList ++ [])
      ⟨.named "running", .is, ""⟩ [] :=
    .test hname (fun _ => boundary_nil.noOperator) rfl rfl
  obtain ⟨x, hx, hleaf⟩ := hrunning.operand
  obtain rfl := List.append_cancel_right hx
  obtain ⟨u, hu, hwu, hheight⟩ := exists_negations hleaf (by simp) 256
  have hand := Phrase.link (j := .and) (Phrase.first hu) (w := []) (by simp) hleaf
  have hsentence := (Phrase.disjunction hand).sentence
  have htext : "running&running".toList = "running".toList ++ '&' :: "running".toList := rfl
  rw [Chain.symbol, List.nil_append, List.append_assoc, ← htext,
    ← String.toList_ofList (l := _ ++ _)] at hsentence
  have hlinks := (hu _ boundary_nil).links_not .and
  refine ⟨_, hsentence.parseFilter_eq ?_, ?_⟩
  -- the comparison behind the link pays for one level only, and the chain before it has paid
  · exact ParseTree.within_link.2 ⟨hwu, 255, by rw [hlinks]; rfl, by simp⟩
  · simp only [ParseTree.expr, Expr.height_combine, Expr.height] at hheight ⊢
    omega

end FleetQuery
