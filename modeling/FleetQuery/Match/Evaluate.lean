import FleetQuery.Filter.Expr
import FleetQuery.Match.Error

/-!
# Evaluation

An expression is evaluated by asking for its comparisons from left to right, in any monad.  `&`
stops at the first operand that is false and `|` at the first that is true.  In `Answering` what is
asked may keep a state, which survives failures, and the first failure ends the evaluation.
-/

namespace FleetQuery

/-- An answer that may fail and may change a state. -/
abbrev Answering (σ α : Type) := ExceptT QueryError (StateM σ) α

/-- Evaluate an expression, with `ask` answering its comparisons. -/
def Expr.evaluate {m : Type → Type} [Monad m] (ask : Comparison → m Bool) : Expr → m Bool
  | and l r => do if ← l.evaluate ask then r.evaluate ask else pure false
  | or l r => do if ← l.evaluate ask then pure true else r.evaluate ask
  | not e => do pure !(← e.evaluate ask)
  | leaf c => ask c

end FleetQuery
