import FleetQuery.Entity.Basic

/-!
# Images under a filter

The id and the size of an image are read from its listing, every other field from its details.
-/

namespace FleetQuery

namespace Image

/-- The fields and operators of filters on images. -/
def schema : Schema :=
  Schema.empty "image"
    |>.fields ["id", "cmd", "entrypoint", "comment", "author", "arch", "docker_version"]
      [.eq, .like]
    |>.family "label" [.is, .eq, .like]
    |>.fields ["size", "created"] [.eq, .gt]

/-- The words of the command of an image, none if it has no run configuration. -/
def command (d : ImageDetails) : List String := (d.config?.map RunConfig.command).getD []

/-- The words of the entry point of an image, none if it has no run configuration. -/
def entrypoint (d : ImageDetails) : List String := (d.config?.map RunConfig.entrypoint).getD []

/-- Where the value of a plain field comes from. -/
def named? : String → Option (Reading ImageSummary ImageDetails)
  | "id" => some (.summary fun s => .text s.id)
  | "size" => some (.summary fun s => .size s.totalSize)
  | "comment" => some (.details fun d => .text d.comment)
  | "author" => some (.details fun d => .text d.author)
  | "arch" => some (.details fun d => .text d.architecture)
  | "docker_version" => some (.details fun d => .text d.dockerVersion)
  | "cmd" => some (.details fun d => .texts (command d))
  | "entrypoint" => some (.details fun d => .texts (entrypoint d))
  | "created" => some (.details fun d => .age (Instant.nonZero? d.created?))
  | _ => none

/-- Where the value of a field comes from. -/
def reading? : Field → Option (Reading ImageSummary ImageDetails)
  | .named name => named? name
  | .member family key =>
    if family == "label" then
      some (.details fun d => .label (d.config?.bind fun c => c.label? key))
    else none

/-- The fields of images. -/
def view : View ImageSummary ImageDetails where
  id := ImageSummary.id
  schema := schema
  reading? := reading?

end Image

end FleetQuery
