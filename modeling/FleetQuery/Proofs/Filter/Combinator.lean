import FleetQuery.Proofs.Filter.Reading
import FleetQuery.Text.Prefix

/-!
# Tokens by combinators

The tokens of a filter, read by primitive readers that are put together with combinators.  A reader
that fails leaves a choice or cuts it off, and says why as far as it knows:

* `Reason` : nothing but the sort of a primitive reader, what is missing, or a fault that was found;
* `Outcome` : an outcome, where only an `error` lets another alternative be tried;
* `Outcome.named`, `Outcome.cut`, `Outcome.orElse`, `Outcome.andThen` : the combinators.  The
  innermost name of what is missing wins;
* `Outcome.Tells x y` : the outcome `x` tells what the result `y` of a reader without combinators
  says, and no failure of a primitive reader is left without a name;
* `Outcome.OnRest P x` : the text that the outcome `x` leaves, if it leaves one, has the property
  `P`;
* `tells_comparison` : **comparisons are read alike with combinators and without.**
-/

namespace FleetQuery

namespace Descent

variable {α β : Type} {s : List Char}

/-! ### Outcomes -/

/-- The primitive readers that may fail. -/
inductive Primitive
  /-- One character. -/
  | char
  /-- A fixed text. -/
  | tag
  /-- A run of at least one character of one sort. -/
  | takeWhile1
  deriving DecidableEq, Repr

/-- The primitive reader in messages. -/
def Primitive.name : Primitive → String
  | char => "Char"
  | tag => "Tag"
  | takeWhile1 => "TakeWhile1"

/-- Why a reader failed. -/
inductive Reason
  /-- A primitive reader did not find its text. -/
  | primitive (kind : Primitive)
  /-- Something with a name is missing. -/
  | expected (what : Malformation)
  /-- A fault was found in what was read. -/
  | found (fault : FilterFault)
  deriving DecidableEq, Repr

/-- The reason as it is reported. -/
def Reason.fault : Reason → FilterFault
  | primitive kind => .malformed (.stated ("unexpected input (" ++ kind.name ++ ")"))
  | expected what => .malformed what
  | found fault => fault

/-- A failure, and the text from the offending place on. -/
structure Failure where
  /-- Why the reader failed. -/
  reason : Reason
  /-- The text from the offending place on. -/
  rest : List Char
  deriving DecidableEq, Repr

/-- The failure as a reader without combinators reports it. -/
def Failure.stop (f : Failure) : Stop := ⟨f.reason.fault, f.rest⟩

/-- The failure says more than the sort of a primitive reader. -/
def Failure.Named (f : Failure) : Prop := ∀ kind, f.reason ≠ .primitive kind

theorem named_expected (what : Malformation) (rest : List Char) :
    Failure.Named ⟨.expected what, rest⟩ := fun _ => Reason.noConfusion

theorem named_found (fault : FilterFault) (rest : List Char) :
    Failure.Named ⟨.found fault, rest⟩ := fun _ => Reason.noConfusion

/-- The outcome of a reader. -/
inductive Outcome (α : Type)
  /-- Something was read, and a text is left. -/
  | ok (rest : List Char) (value : α)
  /-- Nothing was read; another alternative may be tried. -/
  | error (f : Failure)
  /-- Nothing was read, and no alternative may be tried. -/
  | failure (f : Failure)
  /-- More text is needed. -/
  | incomplete
  deriving DecidableEq, Repr

namespace Outcome

/-- Go on behind what was read. -/
def andThen (x : Outcome α) (k : List Char → α → Outcome β) : Outcome β :=
  match x with
  | ok rest a => k rest a
  | error f => error f
  | failure f => failure f
  | incomplete => incomplete

/-- Change what was read. -/
def map (g : α → β) (x : Outcome α) : Outcome β := x.andThen fun rest a => ok rest (g a)

/-- Try another alternative. -/
def orElse (x y : Outcome α) : Outcome α :=
  match x with
  | error _ => y
  | x => x

/-- Let no alternative be tried. -/
def cut : Outcome α → Outcome α
  | error f => failure f
  | x => x

/-- Name what is missing, unless that was done. -/
def named (what : Malformation) : Outcome α → Outcome α
  | error ⟨.primitive _, rest⟩ => error ⟨.expected what, rest⟩
  | failure ⟨.primitive _, rest⟩ => failure ⟨.expected what, rest⟩
  | x => x

/-- The outcome tells what the result `y` says, and names what is missing. -/
def Tells (x : Outcome α) (y : Except Stop (α × List Char)) : Prop :=
  match x with
  | ok rest a => y = .ok (a, rest)
  | error f | failure f => f.Named ∧ y = .error f.stop
  | incomplete => False

theorem Tells.andThen {x : Outcome α} {y : Except Stop (α × List Char)}
    {k : List Char → α → Outcome β} {f : α × List Char → Except Stop (β × List Char)}
    (hx : x.Tells y) (hk : ∀ rest a, (k rest a).Tells (f (a, rest))) :
    (x.andThen k).Tells (y >>= f) := by
  cases x with
  | ok rest a =>
    obtain rfl := hx
    exact hk rest a
  | error g | failure g =>
    obtain ⟨hnamed, rfl⟩ := hx
    exact ⟨hnamed, rfl⟩
  | incomplete => exact hx.elim

/-- No alternative is tried behind the outcome. -/
def Final (x : Outcome α) : Prop := ∀ f, x ≠ error f

theorem final_cut (x : Outcome α) : x.cut.Final := by
  intro f h
  cases x <;> cases h

theorem Final.andThen {x : Outcome α} {k : List Char → α → Outcome β} (hx : x.Final)
    (hk : ∀ rest a, (k rest a).Final) : (x.andThen k).Final := by
  intro g h
  cases x with
  | ok rest a => exact hk rest a g h
  | error f => exact hx f rfl
  | failure | incomplete => cases h

theorem Final.orElse_eq {x : Outcome α} (hx : x.Final) (y : Outcome α) : x.orElse y = x := by
  cases x with
  | error f => exact absurd rfl (hx f)
  | ok | failure | incomplete => rfl

theorem Tells.cut {x : Outcome α} {y : Except Stop (α × List Char)} (hx : x.Tells y) :
    x.cut.Tells y := by
  cases x <;> exact hx

theorem Tells.eq_ok {x : Outcome α} {a : α} {rest : List Char} (hx : x.Tells (.ok (a, rest))) :
    x = .ok rest a := by
  cases x with
  | ok rest' a' =>
    cases hx
    rfl
  | error f | failure f => cases hx.2
  | incomplete => exact hx.elim

/-- If something was read, the text that is left has the property. -/
def OnRest (P : List Char → Prop) : Outcome α → Prop
  | ok rest _ => P rest
  | error _ | failure _ | incomplete => True

theorem OnRest.imp {P Q : List Char → Prop} {x : Outcome α} (hx : x.OnRest P)
    (hPQ : ∀ rest, P rest → Q rest) : x.OnRest Q := by
  cases x with
  | ok rest a => exact hPQ rest hx
  | error | failure | incomplete => trivial

theorem OnRest.cut {P : List Char → Prop} {x : Outcome α} (hx : x.OnRest P) : x.cut.OnRest P := by
  cases x <;> exact hx

theorem OnRest.andThen {P Q : List Char → Prop} {x : Outcome α}
    {k : List Char → α → Outcome β} (hx : x.OnRest P)
    (hk : ∀ rest a, P rest → (k rest a).OnRest Q) : (x.andThen k).OnRest Q := by
  cases x with
  | ok rest a => exact hk rest a hx
  | error | failure | incomplete => trivial

end Outcome

open Outcome

/-! ### Primitive readers -/

/-- One character. -/
def char (c : Char) : List Char → Outcome Char
  | [] => .error ⟨.primitive .char, []⟩
  | x :: s => if x = c then .ok s c else .error ⟨.primitive .char, x :: s⟩

/-- One character behind blanks. -/
def symbol (c : Char) (s : List Char) : Outcome Char := char c (skipBlanks s)

/-- A fixed text. -/
def tag (t s : List Char) : Outcome Unit :=
  match t.isPrefixOf? s with
  | some rest => .ok rest ()
  | none => .error ⟨.primitive .tag, s⟩

/-- The longest run of characters with `p`. -/
def takeWhile (p : Char → Bool) (s : List Char) : Outcome (List Char) :=
  .ok (s.dropWhile p) (s.takeWhile p)

/-- The longest run of characters with `p`, of which there is at least one. -/
def takeWhile1 (p : Char → Bool) (s : List Char) : Outcome (List Char) :=
  if s.takeWhile p = [] then .error ⟨.primitive .takeWhile1, s⟩ else takeWhile p s

theorem char_self (c : Char) (s : List Char) : char c (c :: s) = .ok s c := if_pos rfl

theorem char_of_head? {c : Char} (h : ∀ x ∈ s.head?, x ≠ c) :
    char c s = .error ⟨.primitive .char, s⟩ := by
  cases s with
  | nil => rfl
  | cons x s => exact if_neg (h x rfl)

/-! ### Tokens -/

/-- A field name. -/
def fieldName (s : List Char) : Outcome (List Char) :=
  (takeWhile1 isFieldStart s).andThen fun rest start =>
    (takeWhile isFieldChar rest).map fun more => start ++ more

/-- The symbol of an operator. -/
def operatorSymbol (op : Operator) (s : List Char) : Outcome Operator :=
  (tag op.symbol.toList s).map fun _ => op

/-- The operators, longer symbols before those that they begin with. -/
def symbolOrder : List Operator := [.neq, .notLike, .gte, .lte, .eq, .like, .gt, .lt]

/-- The first of some operators that stands here; the failure is that of the last one. -/
def firstOperator (s : List Char) : List Operator → Outcome Operator
  | [] => .error ⟨.primitive .tag, s⟩
  | op :: ops => (operatorSymbol op s).orElse (firstOperator s ops)

/-- An operator. -/
def operator (s : List Char) : Outcome Operator := firstOperator s symbolOrder

/-- A text between two quotes of one sort. -/
def quoted (q : Char) (s : List Char) : Outcome (List Char) :=
  (char q s).andThen fun rest _ =>
    (takeWhile (· != q) rest).andThen fun rest text =>
      ((char q rest).named .expectedQuote).cut.map fun _ => text

/-- A pattern. -/
def pattern (s : List Char) : Outcome (List Char) :=
  (quoted '\'' s).orElse ((quoted '"' s).orElse (takeWhile1 isBareChar s))

/-- Go on only if the rule of a field allows an operator. -/
def allowed (rule : FieldRule) (name : String) (op : Operator) (place : List Char)
    (x : Outcome α) : Outcome α :=
  if rule.allows op then x else .failure ⟨.found (.illegalOperator name op), place⟩

/-- The operator and the pattern of a comparison, or none of them. -/
def test (rule : FieldRule) (field : Field) (name : String) (start s : List Char) : Outcome Expr :=
  match operator s with
  | .error _ => allowed rule name .is start (.ok s (.leaf ⟨field, .is, ""⟩))
  | x => x.andThen fun rest op =>
    allowed rule name op s
      (((pattern (skipBlanks rest)).named .expectedValue).cut.map fun text =>
        .leaf ⟨field, op, String.ofList text⟩)

/-- A comparison, behind blanks. -/
def comparison (schema : Schema) (s : List Char) : Outcome Expr :=
  ((fieldName (skipBlanks s)).named .expectedField).andThen fun rest chars =>
    match schema.resolve? (String.ofList chars) with
    | none => .failure ⟨.found (.unknownField (String.ofList chars)), skipBlanks s⟩
    | some (field, rule) => test rule field (String.ofList chars) (skipBlanks s) (skipBlanks rest)

/-! ### What the tokens are -/

theorem takeWhile_dropWhile_of_imp {p q : Char → Bool} (h : ∀ c, p c = true → q c = true)
    (s : List Char) :
    s.takeWhile q = s.takeWhile p ++ (s.dropWhile p).takeWhile q ∧
      s.dropWhile q = (s.dropWhile p).dropWhile q := by
  have hrun := longestRun_takeWhile q (s.dropWhile p)
  refine takeWhile_dropWhile_iff.2 ⟨?_, fun c hc => ?_, hrun.2⟩
  · rw [List.append_assoc, List.takeWhile_append_dropWhile, List.takeWhile_append_dropWhile]
  · rcases List.mem_append.1 hc with hc | hc
    · exact h c (List.mem_takeWhile_imp hc)
    · exact hrun.1 c hc

theorem fieldName_eq (s : List Char) :
    fieldName s =
      match fieldName? s with
      | some (name, rest) => .ok rest name
      | none => .error ⟨.primitive .takeWhile1, s⟩ := by
  cases s with
  | nil => rfl
  | cons c s =>
    by_cases hc : isFieldStart c = true
    · obtain ⟨htake, hdrop⟩ :=
        takeWhile_dropWhile_of_imp (fun c => isFieldChar_of_isFieldStart (c := c)) s
      simp [fieldName, takeWhile1, takeWhile, fieldName?, hc, Outcome.andThen, Outcome.map, htake,
        hdrop]
    · simp [fieldName, takeWhile1, fieldName?, hc, Outcome.andThen]

theorem operatorSymbol_append (op : Operator) (rest : List Char) :
    operatorSymbol op (op.symbol.toList ++ rest) = .ok rest op := by
  have h : op.symbol.toList.isPrefixOf? (op.symbol.toList ++ rest) = some rest :=
    isPrefixOf?_eq_some_iff.2 rfl
  rw [operatorSymbol, tag, h]
  rfl

theorem operatorSymbol_of_not_prefix {op : Operator} (h : ¬ op.symbol.toList <+: s) :
    operatorSymbol op s = .error ⟨.primitive .tag, s⟩ := by
  unfold operatorSymbol tag
  split
  · rename_i rest hrest
    exact absurd ⟨rest, (isPrefixOf?_eq_some_iff.1 hrest).symm⟩ h
  · rfl

theorem firstOperator_of_noOperator {ops : List Operator}
    (h : ∀ op ∈ ops, ¬ op.symbol.toList <+: s) :
    firstOperator s ops = .error ⟨.primitive .tag, s⟩ := by
  induction ops with
  | nil => rfl
  | cons op ops ih =>
    rw [firstOperator, operatorSymbol_of_not_prefix (h op List.mem_cons_self)]
    exact ih fun op' hop' => h op' (List.mem_cons_of_mem op hop')

/-- Where longer symbols come first, the first symbol that stands there is the longest one. -/
theorem firstOperator_append {op : Operator} {rest : List Char} {ops : List Operator}
    (hop : IsOperator op rest) (hmem : op ∈ ops)
    (hsorted : ops.Pairwise fun a b => b.symbol.toList.length ≤ a.symbol.toList.length) :
    firstOperator (op.symbol.toList ++ rest) ops = .ok rest op := by
  induction ops with
  | nil => cases hmem
  | cons a ops ih =>
    obtain ⟨hhead, htail⟩ := List.pairwise_cons.1 hsorted
    by_cases ha : a = op
    · rw [firstOperator, ha, operatorSymbol_append]
      rfl
    · have hmem' : op ∈ ops := (List.mem_cons.1 hmem).resolve_left (Ne.symm ha)
      have hnot : ¬ a.symbol.toList <+: op.symbol.toList ++ rest := by
        intro hfront
        have hlength := le_antisymm (hop.2 a hfront) (hhead op hmem')
        obtain ⟨t, ht⟩ := hfront
        exact ha (Operator.symbol_toList_injective (List.append_inj_left ht hlength))
      rw [firstOperator, operatorSymbol_of_not_prefix hnot]
      exact ih hmem' htail

theorem operator_eq (s : List Char) :
    operator s =
      match operator? s with
      | some (op, rest) => .ok rest op
      | none => .error ⟨.primitive .tag, s⟩ := by
  cases ho : operator? s with
  | none =>
    refine firstOperator_of_noOperator fun op hop => operator?_eq_none_iff.1 ho op ?_
    rintro rfl
    revert hop
    decide
  | some r =>
    obtain ⟨op, rest⟩ := r
    obtain ⟨rfl, hop⟩ := operator?_eq_some_iff.1 ho
    refine firstOperator_append hop ?_ (by decide)
    cases op with
    | is => exact absurd rfl hop.1
    | eq | neq | like | notLike | gt | gte | lt | lte => decide

theorem quoted_cons (q : Char) (s : List Char) :
    quoted q (q :: s) =
      match s.dropWhile (· != q) with
      | _ :: rest => .ok rest (s.takeWhile (· != q))
      | [] => .failure ⟨.expected .expectedQuote, []⟩ := by
  have hhead := (longestRun_takeWhile (· != q) s).2
  rw [quoted, char_self]
  cases hrest : s.dropWhile (· != q) with
  | nil => simp [Outcome.andThen, takeWhile, hrest, char, Outcome.named, Outcome.cut, Outcome.map]
  | cons c rest =>
    obtain rfl : c = q := by
      rw [hrest] at hhead
      simpa using hhead c rfl
    simp [Outcome.andThen, takeWhile, hrest, char, Outcome.named, Outcome.cut, Outcome.map]

theorem quoted_of_head? {q : Char} (h : ∀ x ∈ s.head?, x ≠ q) :
    quoted q s = .error ⟨.primitive .char, s⟩ := by
  rw [quoted, char_of_head? h]
  rfl

theorem tells_quoted (q : Char) (s : List Char) :
    ((quoted q (q :: s)).named .expectedValue).Tells (quotedPattern q s) := by
  rw [quoted_cons, quotedPattern]
  cases s.dropWhile (· != q) with
  | nil => exact ⟨named_expected _ _, rfl⟩
  | cons c rest => rfl

theorem tells_bare (s : List Char) :
    ((takeWhile1 isBareChar s).named .expectedValue).Tells
      (match s.takeWhile isBareChar with
        | [] => .error ⟨.malformed .expectedValue, s⟩
        | p => .ok (p, s.dropWhile isBareChar)) := by
  unfold takeWhile1
  split_ifs with h
  · rw [h]
    exact ⟨named_expected _ _, rfl⟩
  · split
    · rename_i hnil
      exact absurd hnil h
    · rfl

/-- Where a quote opens a text, no other alternative is tried. -/
theorem quoted_orElse (q : Char) (s : List Char) (y : Outcome (List Char)) :
    (quoted q (q :: s)).orElse y = quoted q (q :: s) := by
  rw [quoted_cons]
  split <;> rfl

theorem tells_pattern (s : List Char) :
    ((pattern s).named .expectedValue).Tells (FleetQuery.pattern s) := by
  unfold pattern FleetQuery.pattern
  split
  · rw [quoted_orElse]
    exact tells_quoted '\'' _
  · rename_i s
    rw [quoted_of_head? (by simp), quoted_orElse]
    exact tells_quoted '"' s
  · rename_i hsingle hdouble
    have hhead : ∀ {q : Char}, (∀ u, s ≠ q :: u) → ∀ x ∈ s.head?, x ≠ q := by
      rintro q h x hx rfl
      obtain ⟨u, hu⟩ := List.head?_eq_some_iff.1 hx
      exact h u hu
    rw [quoted_of_head? (hhead hsingle), quoted_of_head? (hhead hdouble)]
    exact tells_bare s

/-! ### Comparisons -/

theorem tells_allowed {rule : FieldRule} {name : String} {op : Operator} {place : List Char}
    {x : Outcome α} {y : Except Stop (α × List Char)} (h : x.Tells y) :
    (allowed rule name op place x).Tells (checkOperator rule name op place >>= fun _ => y) := by
  unfold allowed checkOperator
  split_ifs
  · exact h
  · exact ⟨named_found _ _, rfl⟩

theorem tells_test (rule : FieldRule) (field : Field) (name : String) (start s : List Char) :
    (test rule field name start s).Tells
      (match operator? s with
        | none => do
          checkOperator rule name .is start
          pure (.leaf ⟨field, .is, ""⟩, s)
        | some (op, after) => do
          checkOperator rule name op s
          let (text, after) ← FleetQuery.pattern (skipBlanks after)
          pure (.leaf ⟨field, op, String.ofList text⟩, after)) := by
  unfold test
  rw [operator_eq]
  cases operator? s with
  | none => exact tells_allowed rfl
  | some r =>
    obtain ⟨op, after⟩ := r
    refine tells_allowed (Outcome.Tells.andThen (tells_pattern (skipBlanks after)).cut ?_)
    exact fun rest text => rfl

/-- **Comparisons are read alike with combinators and without.** -/
theorem tells_comparison (schema : Schema) (s : List Char) :
    (comparison schema s).Tells (FleetQuery.comparison schema (skipBlanks s)) := by
  unfold comparison FleetQuery.comparison
  rw [fieldName_eq]
  cases fieldName? (skipBlanks s) with
  | none => exact ⟨named_expected _ _, rfl⟩
  | some r =>
    obtain ⟨chars, rest⟩ := r
    dsimp only [Outcome.named, Outcome.andThen]
    cases schema.resolve? (String.ofList chars) with
    | none => exact ⟨named_found _ _, rfl⟩
    | some found =>
      obtain ⟨field, rule⟩ := found
      exact tells_test rule field (String.ofList chars) (skipBlanks s) (skipBlanks rest)

end Descent

end FleetQuery
