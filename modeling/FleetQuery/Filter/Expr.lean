import FleetQuery.Filter.Field
import FleetQuery.Filter.Operator
import FleetQuery.Text.Quoted

/-!
# Filter expressions

The tree of a filter: comparisons joined by `&`, `|` and `!`.  `Expr.display` writes it in
normal form, with every binary node in parentheses and every pattern quoted.
-/

namespace FleetQuery

/-- A comparison of one field with a pattern.  The pattern is kept as it was written; what it
means depends on the value it is compared with. -/
structure Comparison where
  /-- The field asked for. -/
  field : Field
  /-- How it is compared. -/
  op : Operator
  /-- What it is compared with, empty for the existence test. -/
  pattern : String
  deriving DecidableEq, Repr

/-- A filter expression. -/
inductive Expr
  /-- Both operands hold. -/
  | and (left right : Expr)
  /-- At least one operand holds. -/
  | or (left right : Expr)
  /-- The operand does not hold. -/
  | not (operand : Expr)
  /-- The comparison holds. -/
  | leaf (comparison : Comparison)
  deriving DecidableEq, Repr

/-- A comparison in normal form: the field alone for the existence test, else field, symbol and
quoted pattern. -/
def Comparison.display (c : Comparison) : String :=
  match c.op with
  | .is => c.field.display
  | op => c.field.display ++ op.symbol ++ quotedText c.pattern

/-- An expression in normal form. -/
def Expr.display : Expr → String
  | and l r => "(" ++ l.display ++ " & " ++ r.display ++ ")"
  | or l r => "(" ++ l.display ++ " | " ++ r.display ++ ")"
  | not e => "!" ++ e.display
  | leaf c => c.display

end FleetQuery
