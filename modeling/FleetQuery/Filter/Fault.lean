import FleetQuery.Filter.Operator
import FleetQuery.Text.Located

/-!
# Faults of filters

Why a filter is refused: a field that the schema does not have, an operator that the field does
not accept, or a text that is no expression.
-/

namespace FleetQuery

/-- Why a text is no expression. -/
inductive Malformation
  /-- A field name should stand here. -/
  | expectedField
  /-- A closing parenthesis should stand here. -/
  | expectedClose
  /-- A pattern should stand here. -/
  | expectedValue
  /-- The text ends inside a quoted pattern. -/
  | expectedQuote
  /-- The expression is complete, and this character follows it. -/
  | unexpected (c : Char)
  /-- The expression is nested deeper than `nestingLimit`. -/
  | nestedTooDeeply
  /-- A reason given in words. -/
  | stated (text : String)
  deriving DecidableEq, Repr

/-- The wording of a malformation. -/
def Malformation.message : Malformation → String
  | expectedField => "expected a field name"
  | expectedClose => "expected ')'"
  | expectedValue => "expected a value"
  | expectedQuote => "expected closing quote"
  | unexpected c => "unexpected '" ++ String.singleton c ++ "'"
  | nestedTooDeeply => "expression nested too deeply"
  | stated text => text

/-- Why a filter is refused. -/
inductive FilterFault
  /-- The schema has no such field. -/
  | unknownField (name : String)
  /-- The field does not accept the operator. -/
  | illegalOperator (field : String) (op : Operator)
  /-- The text is no expression. -/
  | malformed (why : Malformation)
  deriving DecidableEq, Repr

/-- The wording of a fault. -/
def FilterFault.message : FilterFault → String
  | unknownField name => "unknown field '" ++ name ++ "'"
  | illegalOperator field op =>
    "operator '" ++ op.display ++ "' is not allowed on field '" ++ field ++ "'"
  | malformed why => why.message

/-- A filter that was refused. -/
abbrev FilterError := Located FilterFault

/-- The wording of a refusal. -/
def FilterError.message (e : FilterError) : String :=
  e.fault.message ++ " at position " ++ toString e.position

end FleetQuery
