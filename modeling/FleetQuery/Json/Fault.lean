/-!
# Faults of JSON texts

A JSON text is read from front to back, and the first problem decides.
-/

namespace FleetQuery

/-- Why a JSON text is refused. -/
inductive JsonFault
  /-- The text ends too early. -/
  | truncated
  /-- The text is not JSON here. -/
  | malformed
  /-- The text is JSON, but not of the shape that is wanted. -/
  | misshapen
  /-- The text could not be read. -/
  | unreadable
  deriving DecidableEq, Repr

end FleetQuery
