/-!
# Comparison operators

The operators of the filter language.  Eight of them are written with a symbol; `Operator.is` is
the existence test of a field that stands alone, and has none.
-/

namespace FleetQuery

/-- A comparison operator. -/
inductive Operator
  /-- Existence or truth, for a field that stands alone. -/
  | is
  /-- Equality. -/
  | eq
  /-- Inequality. -/
  | neq
  /-- Containment without regard to case. -/
  | like
  /-- Negated containment. -/
  | notLike
  /-- Greater. -/
  | gt
  /-- Greater or equal. -/
  | gte
  /-- Less. -/
  | lt
  /-- Less or equal. -/
  | lte
  deriving DecidableEq, Repr

namespace Operator

/-- The operators, the existence test first. -/
def all : List Operator := [is, eq, neq, like, notLike, gt, gte, lt, lte]

/-- The symbol of an operator, empty for the existence test. -/
def symbol : Operator → String
  | is => ""
  | eq => "="
  | neq => "!="
  | like => "~"
  | notLike => "!~"
  | gt => ">"
  | gte => ">="
  | lt => "<"
  | lte => "<="

/-- The operator as it is named in messages. -/
def display : Operator → String
  | is => "is"
  | op => op.symbol

/-- The operator that a symbol stands for; the empty symbol stands for none. -/
def ofSymbol? (s : String) : Option Operator :=
  if s == "" then none else all.find? fun op => op.symbol == s

theorem ofSymbol?_symbol {op : Operator} (h : op ≠ is) : ofSymbol? op.symbol = some op := by
  cases op <;> first | exact absurd rfl h | decide

end Operator

end FleetQuery
