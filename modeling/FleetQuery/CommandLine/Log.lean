import FleetQuery.CommandLine.Host
import FleetQuery.Log.Filter

/-!
# The log of a run

Events that pass the filter become lines at the end of a file, or on the standard error.  The file
is made when the log is opened; a line that cannot be written is lost, and the run goes on.
-/

namespace FleetQuery

/-- Where log lines go, which events are logged, and how the lines look. -/
structure Log where
  /-- The file that lines are added to; without one, they go to the standard error. -/
  file? : Option String
  /-- Which events are logged. -/
  filter : LogFilter
  /-- How log lines look. -/
  format : LogFormat
  deriving Repr

namespace Log

variable {m : Type → Type} [Monad m]

/-- Make sure that the file of the log can be written; else the file and the fault. -/
def start (log : Log) (host : Host m) : m (Except (String × FileFault) Unit) := do
  match log.file? with
  | none => return .ok ()
  | some path => return (← host.append path "").mapError fun fault => (path, fault)

/-- Log an event, if it passes the filter. -/
def note (log : Log) (host : Host m) (event : LogEvent) : m Unit := do
  if log.filter.enables event then
    let lines := event.render log.format (← host.now)
    match log.file? with
    | none => host.printError lines
    | some path => let _ ← host.append path lines

end Log

end FleetQuery
