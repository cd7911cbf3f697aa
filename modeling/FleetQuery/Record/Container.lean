import FleetQuery.Record.Run

/-!
# Records of containers

A listing gives a summary of every container; inspecting one gives its details.
-/

namespace FleetQuery

/-- A container as it is listed. -/
structure ContainerSummary where
  /-- The id. -/
  id : String
  /-- The image that it runs. -/
  image : String := ""
  deriving DecidableEq, Repr

/-- The state of a container. -/
structure ContainerState where
  /-- It runs. -/
  running : Bool := false
  /-- It is paused. -/
  paused : Bool := false
  /-- It restarts. -/
  restarting : Bool := false
  /-- Its exit code, -1 if it never ran. -/
  exitCode : Int := -1
  /-- When it finished. -/
  finishedAt? : Option Instant := none
  deriving DecidableEq, Repr

/-- A container as it is inspected. -/
structure ContainerDetails where
  /-- The id. -/
  id : String
  /-- The name, with a slash before it. -/
  name : String := ""
  /-- When it was created. -/
  created? : Option Instant := none
  /-- Its state. -/
  state : ContainerState := {}
  /-- What it runs. -/
  config : RunConfig := {}
  deriving DecidableEq, Repr

open Json

namespace ContainerSummary

/-- The fields of a summary. -/
def layout : Layout [String, String] :=
  .cons ⟨"Id", .text, none⟩ <| .cons ⟨"Image", .text, some ""⟩ .nil

/-- Summaries in JSON. -/
def codec : Codec ContainerSummary :=
  layout.codec (fun (id, image, _) => ⟨id, image⟩) fun c => (c.id, c.image, ())

end ContainerSummary

namespace ContainerState

/-- The fields of a state. -/
def layout : Layout [Bool, Bool, Bool, Int, Option Instant] :=
  .cons ⟨"Running", .flag, some false⟩ <|
  .cons ⟨"Paused", .flag, some false⟩ <|
  .cons ⟨"Restarting", .flag, some false⟩ <|
  .cons ⟨"ExitCode", .integer, some (-1)⟩ <|
  .cons ⟨"FinishedAt", .optional .instant, some none⟩ .nil

/-- States in JSON. -/
def codec : Codec ContainerState :=
  layout.codec
    (fun (running, paused, restarting, exitCode, finishedAt?, _) =>
      ⟨running, paused, restarting, exitCode, finishedAt?⟩)
    fun s => (s.running, s.paused, s.restarting, s.exitCode, s.finishedAt?, ())

end ContainerState

namespace ContainerDetails

/-- The name without the slash before it. -/
def displayName (d : ContainerDetails) : String :=
  match d.name.toList with
  | '/' :: name => String.ofList name
  | _ => d.name

/-- The fields of details. -/
def layout : Layout [String, String, Option Instant, ContainerState, RunConfig] :=
  .cons ⟨"Id", .text, none⟩ <|
  .cons ⟨"Name", .text, some ""⟩ <|
  .cons ⟨"Created", .optional .instant, some none⟩ <|
  .cons ⟨"State", ContainerState.codec, some {}⟩ <|
  .cons ⟨"Config", RunConfig.codec, some {}⟩ .nil

/-- Details in JSON. -/
def codec : Codec ContainerDetails :=
  layout.codec
    (fun (id, name, created?, state, config, _) => ⟨id, name, created?, state, config⟩)
    fun d => (d.id, d.name, d.created?, d.state, d.config, ())

end ContainerDetails

end FleetQuery
