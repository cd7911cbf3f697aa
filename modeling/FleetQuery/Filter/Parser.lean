import FleetQuery.Filter.Expr
import FleetQuery.Filter.Schema
import FleetQuery.Filter.Token

/-!
# Reading filters

The grammar, with blanks allowed before every token:

    Or         := And ('|' And)*
    And        := Not ('&' Not)*
    Not        := '!' Not | Atom
    Atom       := '(' Or ')' | Comparison
    Comparison := Field [Operator Pattern]

Both chains associate to the left.  Every field is looked up in the schema as it is read, and the
schema has to allow the operator.  Nesting costs: a negation and a group cost one level each, and
the `i`-th operand of a chain, counted from zero, costs `i` levels.  The readers take the number
of levels still free, which is also what they recurse on; `nestingLimit` levels are free at the
start.  A filter is read by `parseFilter`, and kept with its text as a `Matcher`.
-/

namespace FleetQuery

/-- The number of levels that an expression may use. -/
def nestingLimit : Nat := 256

/-- An expression and the text that follows it, or where and why there is none. -/
abbrev Parsed := Except Stop (Expr × List Char)

/-- Refuse an operator that the rule of a field does not allow; `place` takes the blame. -/
def checkOperator (rule : FieldRule) (name : String) (op : Operator) (place : List Char) :
    Except Stop Unit :=
  if rule.allows op then .ok () else .error ⟨.illegalOperator name op, place⟩

/-- A comparison at the front of a text without leading blanks. -/
def comparison (schema : Schema) (s : List Char) : Parsed :=
  match fieldName? s with
  | none => .error ⟨.malformed .expectedField, s⟩
  | some (chars, rest) =>
    let name := String.ofList chars
    match schema.resolve? name with
    | none => .error ⟨.unknownField name, s⟩
    | some (field, rule) =>
      let rest := skipBlanks rest
      match operator? rest with
      | none => do
        checkOperator rule name .is s
        pure (.leaf ⟨field, .is, ""⟩, rest)
      | some (op, after) => do
        checkOperator rule name op rest
        let (text, after) ← pattern (skipBlanks after)
        pure (.leaf ⟨field, op, String.ofList text⟩, after)

/-- Refuse a text for its depth. -/
def tooDeep (rest : List Char) : Parsed := .error ⟨.malformed .nestedTooDeeply, rest⟩

/-- The closing parenthesis of a group that holds `e`. -/
def closeGroup (e : Expr) (s : List Char) : Parsed :=
  match skipBlanks s with
  | ')' :: rest => .ok (e, rest)
  | rest => .error ⟨.malformed .expectedClose, rest⟩

/-- The sorts of chains. -/
inductive Chain
  /-- Conjunctions. -/
  | and
  /-- Disjunctions. -/
  | or
  deriving DecidableEq, Repr

/-- The symbol between two operands. -/
def Chain.symbol : Chain → Char
  | and => '&'
  | or => '|'

/-- The expression of a chain and one more operand. -/
def Chain.combine : Chain → Expr → Expr → Expr
  | and => .and
  | or => .or

mutual

/-- Read `Not` with a number of free levels. -/
def parseNot (schema : Schema) : Nat → List Char → Parsed
  | 0, s =>
    match skipBlanks s with
    | '!' :: rest => tooDeep rest
    | '(' :: rest => tooDeep rest
    | s => comparison schema s
  | n + 1, s =>
    match skipBlanks s with
    | '!' :: rest => do
      let (e, rest) ← parseNot schema n rest
      pure (.not e, rest)
    | '(' :: rest => do
      let (e, rest) ← parseNot schema n rest
      let (e, rest) ← parseLinks schema .and n e rest
      let (e, rest) ← parseLinks schema .or n e rest
      closeGroup e rest
    | s => comparison schema s
  termination_by structural n => n

/-- Read the further operands of a chain whose first operands are `e`. -/
def parseLinks (schema : Schema) (k : Chain) : Nat → Expr → List Char → Parsed
  | 0, e, s =>
    match skipBlanks s with
    | c :: rest => if c = k.symbol then tooDeep rest else .ok (e, s)
    | [] => .ok (e, s)
  | n + 1, e, s =>
    match skipBlanks s with
    | c :: rest =>
      if c = k.symbol then do
        let (e', rest) ← parseNot schema n rest
        let (e', rest) ← match k with
          | .and => pure (e', rest)
          | .or => parseLinks schema .and n e' rest
        parseLinks schema k n (k.combine e e') rest
      else .ok (e, s)
    | [] => .ok (e, s)
  termination_by structural n => n

end

/-- Read an operand of a chain with a number of free levels. -/
def parseOperand (schema : Schema) (k : Chain) (n : Nat) (s : List Char) : Parsed :=
  match k with
  | .and => parseNot schema n s
  | .or => do
    let (e, rest) ← parseNot schema n s
    parseLinks schema .and n e rest

/-- Read a chain with a number of free levels. -/
def parseChain (schema : Schema) (k : Chain) (n : Nat) (s : List Char) : Parsed := do
  let (e, rest) ← parseOperand schema k n s
  parseLinks schema k n e rest

/-- Read a whole filter; white space may follow the expression. -/
def parseFilter (schema : Schema) (input : String) : Except FilterError Expr :=
  match parseChain schema .or nestingLimit input.toList with
  | .error stop => .error (.before stop.fault stop.rest input)
  | .ok (e, rest) =>
    match trimLeft rest with
    | [] => .ok e
    | c :: rest => .error (.before (.malformed (.unexpected c)) (c :: rest) input)

/-- A filter that was read, with its text. -/
structure Matcher where
  /-- The filter as it was typed. -/
  source : String
  /-- What it says. -/
  expr : Expr
  deriving DecidableEq, Repr

namespace Matcher

/-- Read a filter for a schema. -/
def parse (schema : Schema) (input : String) : Except FilterError Matcher :=
  (parseFilter schema input).map fun e => ⟨input, e⟩

/-- The filter in normal form. -/
def display (m : Matcher) : String := m.expr.display

end Matcher

end FleetQuery
