import FleetQuery.Entity.Kind
import FleetQuery.Json.Value
import FleetQuery.Text.Quoted
import FleetQuery.Time.Stamp

/-!
# Log events

What a run tells about itself while it goes on.  An event has a level, the part of the program
that it comes from, a message, and fields with a name each.  `LogEvent.render` gives its text in
one of three formats; in JSON an event is one object on one line.
-/

namespace FleetQuery

/-- How grave an event is, gravest first. -/
inductive LogLevel
  /-- A failure. -/
  | error
  /-- A problem that the run gets over. -/
  | warn
  /-- A result. -/
  | info
  /-- A step. -/
  | debug
  /-- A detail. -/
  | trace
  deriving DecidableEq, Repr

namespace LogLevel

/-- All levels, gravest first. -/
def all : List LogLevel := [error, warn, info, debug, trace]

/-- The name of a level. -/
def name : LogLevel → String
  | error => "error"
  | warn => "warn"
  | info => "info"
  | debug => "debug"
  | trace => "trace"

/-- The place of a level among all levels, from 1 for the gravest. -/
def rank : LogLevel → Nat
  | error => 1
  | warn => 2
  | info => 3
  | debug => 4
  | trace => 5

/-- The name of a level in log lines. -/
def label (level : LogLevel) : String := level.name.toUpper

end LogLevel

/-- How log lines look. -/
inductive LogFormat
  /-- Several lines for each event. -/
  | pretty
  /-- One line for each event. -/
  | full
  /-- One JSON object for each event. -/
  | json
  deriving DecidableEq, Repr

/-- Something that happened in a run. -/
structure LogEvent where
  /-- How grave it is. -/
  level : LogLevel
  /-- The part of the program that it comes from. -/
  target : String
  /-- What happened. -/
  message : String
  /-- What else is known, by name. -/
  fields : List (String × Json) := []
  deriving Repr

namespace LogEvent

/-- The configuration stands. -/
def configured (origin? : Option String) : LogEvent where
  level := .debug
  target := "bateau"
  message :=
    match origin? with
    | some path => "Loaded config from " ++ quotedText path
    | none => "Using default config with environment overrides"

/-- The configuration has a problem. -/
def warned (problem : String) : LogEvent where
  level := .warn
  target := "bateau"
  message := problem

/-- A filter was read. -/
def compiled (schema filter : String) : LogEvent where
  level := .debug
  target := "bateau::query::evaluator"
  message := "Compiled filter"
  fields := [("schema", .text schema), ("filter", .text filter)]

/-- The standard input will be read. -/
def readingInput : LogEvent where
  level := .debug
  target := "bateau::entity::source"
  message := "Reading snapshot from stdin"

/-- A snapshot was read from a file. -/
def loaded (path : String) (containers images : Nat) : LogEvent where
  level := .debug
  target := "bateau::entity::source"
  message := "Loaded snapshot"
  fields := [("path", .text path), ("containers", .integer containers), ("images", .integer images)]

/-- The details of an entity will be fetched. -/
def inspecting (kind : EntityKind) (id : String) : LogEvent where
  level := .debug
  target := "bateau::entity::" ++ kind.name
  message := "Inspecting " ++ kind.name
  fields := [("id", .text id)]

/-- A scan has come to its end. -/
def scanned (kind : EntityKind) (filter : String) (total matched : Nat) : LogEvent where
  level := .info
  target := "bateau::entity"
  message := "Scanned " ++ kind.name ++ "s"
  fields := [("filter", .text filter), ("total", .integer total), ("matched", .integer matched)]

/-- The event has a field with this name; the message is one. -/
def hasField (e : LogEvent) (name : String) : Bool :=
  name == "message" || (e.fields.lookup name).isSome

/-- The value of a field in a line that is not JSON. -/
def plainValue : Json → String
  | .text s => s
  | v => String.ofList v.render

/-- The event as a JSON value. -/
def toJson (e : LogEvent) (time : String) : Json :=
  .object [("timestamp", .text time), ("level", .text e.level.label),
    ("fields", .object (("message", .text e.message) :: e.fields)), ("target", .text e.target)]

/-- The level, the origin and the message. -/
def summary (e : LogEvent) (time : String) : String :=
  time ++ " " ++ e.level.label ++ " " ++ e.target ++ ": " ++ e.message

/-- The text of an event that happened at a given time. -/
def render (e : LogEvent) (format : LogFormat) (now : Instant) : String :=
  let time := String.ofList now.write
  match format with
  | .json => String.ofList (e.toJson time).render ++ "\n"
  | .full =>
    e.summary time ++ String.join (e.fields.map fun (k, v) => " " ++ k ++ "=" ++ plainValue v)
      ++ "\n"
  | .pretty =>
    "  " ++ e.summary time
      ++ String.join (e.fields.map fun (k, v) => ", " ++ k ++ ": " ++ plainValue v) ++ "\n\n"

end LogEvent

end FleetQuery
