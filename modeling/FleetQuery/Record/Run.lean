import FleetQuery.Record.Labels

/-!
# Run configurations

What a container runs, or what containers made from an image run.
-/

namespace FleetQuery

/-- Labels, command and entry point of a container or an image. -/
structure RunConfig where
  /-- The labels. -/
  labels? : Option Labels := none
  /-- The words of the command. -/
  command? : Option (List String) := none
  /-- The words of the entry point. -/
  entrypoint? : Option (List String) := none
  deriving DecidableEq, Repr

namespace RunConfig

/-- The words of the command, none if it is not set. -/
def command (c : RunConfig) : List String := c.command?.getD []

/-- The words of the entry point, none if it is not set. -/
def entrypoint (c : RunConfig) : List String := c.entrypoint?.getD []

/-- The text of a label. -/
def label? (c : RunConfig) (key : String) : Option String := do (← c.labels?).get? key

open Json in
/-- The fields of a run configuration. -/
def layout : Layout [Option Labels, Option (List String), Option (List String)] :=
  .cons ⟨"Labels", .optional Labels.codec, some none⟩ <|
  .cons ⟨"Cmd", .optional (.list .text), some none⟩ <|
  .cons ⟨"Entrypoint", .optional (.list .text), some none⟩ .nil

/-- Run configurations in JSON. -/
def codec : Json.Codec RunConfig :=
  layout.codec (fun (labels?, command?, entrypoint?, _) => ⟨labels?, command?, entrypoint?⟩)
    fun c => (c.labels?, c.command?, c.entrypoint?, ())

end RunConfig

end FleetQuery
