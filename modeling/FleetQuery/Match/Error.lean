import FleetQuery.Filter.Fault
import FleetQuery.Literal.Reader
import FleetQuery.Snapshot.Error

/-!
# Faults of queries

Everything that can go wrong from the text of a filter to its answer on an entity.
-/

namespace FleetQuery

/-- The sorts of live values that comparisons are made with. -/
inductive ValueSort
  /-- Texts. -/
  | text
  /-- Integers. -/
  | integer
  /-- Times elapsed. -/
  | duration
  /-- Numbers of bytes. -/
  | size
  /-- Lists of texts. -/
  | texts
  deriving DecidableEq, Repr

/-- The name of a sort in messages. -/
def ValueSort.name : ValueSort → String
  | text => "string"
  | integer => "integer"
  | duration => "duration"
  | size => "size"
  | texts => "string list"

/-- Why a value cannot be compared. -/
inductive ComparisonFault
  /-- Values of this sort do not know the operator. -/
  | unsupported (sort : ValueSort) (op : Operator)
  /-- The pattern should be an integer. -/
  | notNumeric (pattern : String)
  deriving DecidableEq, Repr

/-- The wording of a fault. -/
def ComparisonFault.message : ComparisonFault → String
  | unsupported sort op =>
    "unsupported operator '" ++ op.display ++ "' for " ++ sort.name ++ " values"
  | notNumeric pattern => "'" ++ pattern ++ "' is not a numeric value"

/-- Why a query fails. -/
inductive QueryError
  /-- The filter was refused. -/
  | filter (e : FilterError)
  /-- A literal in a pattern was refused. -/
  | literal (e : LiteralError)
  /-- A value cannot be compared. -/
  | comparison (e : ComparisonFault)
  /-- The entity has no such field. -/
  | invalidField (display : String)
  /-- The source did not answer. -/
  | source (e : SourceError)
  deriving DecidableEq, Repr

namespace QueryError

/-- The wording of a failure. -/
def message : QueryError → String
  | filter e => "Invalid query: " ++ e.message
  | literal e => "Invalid literal: " ++ e.message
  | comparison e => "Comparison error: " ++ e.message
  | invalidField display => "Invalid field " ++ display
  | source e => "Source error: " ++ e.message

/-- The wordings of what lies behind a failure, nearest first. -/
def causes : QueryError → List String
  | filter e => [e.message]
  | literal e => [e.message]
  | comparison e => [e.message]
  | invalidField _ => []
  | source e => e.message :: e.cause?.toList

/-- The pattern is at fault, whatever value it is compared with. -/
def isPatternError : QueryError → Bool
  | literal _ => true
  | comparison (.notNumeric _) => true
  | _ => false

end QueryError

end FleetQuery
