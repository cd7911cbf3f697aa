import FleetQuery.Entity.Kind
import FleetQuery.Files.Fault
import FleetQuery.Json.Fault
import FleetQuery.Text.Quoted

/-!
# Faults of sources

What can go wrong when entities are listed or inspected.
-/

namespace FleetQuery

/-- Why a source cannot answer. -/
inductive SourceError
  /-- The snapshot file cannot be opened. -/
  | unopened (path : String) (fault : FileFault)
  /-- The snapshot is not what it should be; the reader of JSON gives the reason. -/
  | invalid (fault : JsonFault) (reason : String)
  /-- The source knows no entity of this kind and id. -/
  | notFound (kind : EntityKind) (id : String)
  deriving DecidableEq, Repr

namespace SourceError

/-- The wording of a fault. -/
def message : SourceError → String
  | unopened path fault => "Failed to read snapshot " ++ quotedText path ++ ": " ++ fault.message
  | invalid _ reason => "Invalid snapshot: " ++ reason
  | notFound kind id => "Error while retrieving " ++ kind.name ++ " " ++ id ++ ": not found"

/-- The wording of what lies behind a fault, if anything does. -/
def cause? : SourceError → Option String
  | unopened _ fault => some fault.message
  | invalid _ reason => some reason
  | notFound _ _ => none

end SourceError

end FleetQuery
