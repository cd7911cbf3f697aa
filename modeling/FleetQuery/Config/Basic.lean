import FleetQuery.Entity.Kind
import FleetQuery.Files.Fault
import FleetQuery.Log.Filter
import FleetQuery.Text.Quoted
import FleetQuery.Toml.Reader

/-!
# Configurations

Where entities are read from, which kind a filter is about if nobody says, and how the program
logs.  `Config.ofEntries?` takes a configuration out of a TOML document: it looks at the keys that
it knows and passes over all others.
-/

namespace FleetQuery

/-- Why a configuration file cannot be used. -/
inductive ConfigError
  /-- The file cannot be read. -/
  | unread (path : String) (fault : FileFault)
  /-- The file holds no configuration; the reader of TOML gives the reason. -/
  | unparsed (path reason : String)
  deriving DecidableEq, Repr

/-- The wording of a fault. -/
def ConfigError.message : ConfigError → String
  | unread path fault => "Failed to read config file " ++ quotedText path ++ ": " ++ fault.message
  | unparsed path reason => "Failed to parse config file " ++ quotedText path ++ ": " ++ reason

/-- A problem that did not keep the configuration from being made. -/
inductive ConfigWarning
  /-- A file was passed over. -/
  | skipped (e : ConfigError)
  /-- The kind that the environment asks for was ignored. -/
  | ignoredKind (reason : String)
  deriving DecidableEq, Repr

/-- The wording of a problem. -/
def ConfigWarning.message : ConfigWarning → String
  | skipped e => e.message
  | ignoredKind reason => "Ignoring BATEAU_DEFAULT_KIND: " ++ reason

/-- A configuration. -/
structure Config where
  /-- The snapshot file; `-` is the standard input. -/
  snapshot? : Option String := none
  /-- The kind of entity that filters are about. -/
  defaultKind : EntityKind := .container
  /-- The level of log lines. -/
  level : String := "warn"
  /-- The name of the format of log lines. -/
  format : String := "pretty"
  /-- The file that log lines go to. -/
  logFile? : Option String := none
  /-- The file that the configuration was read from. -/
  origin? : Option String := none
  /-- The problems met on the way. -/
  warnings : List ConfigWarning := []
  deriving DecidableEq, Repr

/-- The format of log lines; one line for each event where the name is not known. -/
def Config.logFormat (c : Config) : LogFormat :=
  if c.format == "pretty" then .pretty
  else if c.format == "json" then .json
  else .full

/-- Which events are logged: those that some directives say, if they are well formed, else those of
the program down to the level of the configuration. -/
def Config.logFilter (c : Config) (directives? : Option String) : LogFilter :=
  (directives?.bind LogFilter.read?).getD (LogFilter.salvage ("bateau=" ++ c.level))

namespace Toml.Value

/-- The text that a value is. -/
def text? : Value → Option String
  | text s => some s
  | _ => none

/-- The kind that a value names: by a text, or by the only key of a table that holds nothing
else. -/
def kind? : Value → Option EntityKind
  | text s => EntityKind.ofKey? s
  | table _ [(key, table _ [])] => EntityKind.ofKey? key
  | table _ [(key, array [])] => EntityKind.ofKey? key
  | _ => none

/-- The values of named fields: those under their names in a table, or the items of an array in
order, which then needs at least `least` of them.  A date holds no field. -/
def fields? (names : List String) (least : Nat) : Value → Option (List (Option Value))
  | table _ es => some (names.map fun name => es.lookup name)
  | array items => inOrder items
  | tables items => inOrder (items.map (table .header))
  | moment => some (names.map fun _ => none)
  | _ => none
where
  /-- The first items of an array, one for each name. -/
  inOrder (items : List Value) : Option (List (Option Value)) :=
    if items.length < least then none else some (names.zipIdx.map fun (_, i) => items[i]?)

end Toml.Value

namespace Config

open Toml

/-- Read a value that may be missing. -/
def optionally {α : Type} (read? : Value → Option α) : Option Value → Option (Option α)
  | none => some none
  | some v => (read? v).map some

/-- The values of named fields of a table that may be missing. -/
def group? (es : Entries) (key : String) (names : List String) (least : Nat) :
    Option (List (Option Value)) :=
  match es.lookup key with
  | none => some (names.map fun _ => none)
  | some v => v.fields? names least

/-- The configuration that a document describes. -/
def ofEntries? (es : Entries) : Option Config := do
  match ← group? es "source" ["snapshot"] 1, ← group? es "query" ["default_kind"] 0,
      ← group? es "logging" ["level", "format", "file"] 3 with
  | [snapshot], [kind], [level, format, file] =>
    let snapshot? ← optionally Value.text? snapshot
    let kind? ← optionally Value.kind? kind
    let level? ← optionally Value.text? level
    let format? ← optionally Value.text? format
    let logFile? ← optionally Value.text? file
    some {
      snapshot?
      defaultKind := kind?.getD .container
      level := level?.getD "warn"
      format := format?.getD "pretty"
      logFile? }
  | _, _, _ => none

end Config

end FleetQuery
