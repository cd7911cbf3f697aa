import FleetQuery.Entity.Basic

/-!
# Containers under a filter

The id and the image of a container are read from its listing, every other field from its
details.
-/

namespace FleetQuery

namespace Container

/-- The fields and operators of filters on containers. -/
def schema : Schema :=
  Schema.empty "container"
    |>.fields ["running", "paused", "restarting"] [.is]
    |>.family "label" [.is, .eq, .like]
    |>.fields ["id", "name", "image", "cmd", "entrypoint"] [.eq, .like]
    |>.fields ["exit", "created", "exited"] [.eq, .gt]

/-- The exit code of a container as a live value: one that never ran matches nothing. -/
def exitCode (code : Int) : Live := if code == -1 then .flag false else .integer code

/-- Where the value of a plain field comes from. -/
def named? : String → Option (Reading ContainerSummary ContainerDetails)
  | "running" => some (.details fun d => .flag d.state.running)
  | "paused" => some (.details fun d => .flag d.state.paused)
  | "restarting" => some (.details fun d => .flag d.state.restarting)
  | "id" => some (.summary fun s => .text s.id)
  | "image" => some (.summary fun s => .text s.image)
  | "name" => some (.details fun d => .text d.displayName)
  | "exit" => some (.details fun d => exitCode d.state.exitCode)
  | "cmd" => some (.details fun d => .texts d.config.command)
  | "entrypoint" => some (.details fun d => .texts d.config.entrypoint)
  | "created" => some (.details fun d => .age (Instant.nonZero? d.created?))
  | "exited" => some (.details fun d => .age (Instant.nonZero? d.state.finishedAt?))
  | _ => none

/-- Where the value of a field comes from. -/
def reading? : Field → Option (Reading ContainerSummary ContainerDetails)
  | .named name => named? name
  | .member family key =>
    if family == "label" then some (.details fun d => .label (d.config.label? key)) else none

/-- The fields of containers. -/
def view : View ContainerSummary ContainerDetails where
  id := ContainerSummary.id
  schema := schema
  reading? := reading?

end Container

end FleetQuery
