import FleetQuery.Config.Basic

/-!
# Loading configurations

A configuration comes from a file, and the environment overrides it.  Without a file of the
user's choice, the first of several candidates that can be used is taken; those that are passed
over leave a warning, and if none is left the defaults hold.  What is wrong with a text that
describes no configuration is told by `reason`.
-/

namespace FleetQuery

/-- What the environment says about the configuration. -/
structure Overrides where
  /-- The snapshot file. -/
  snapshot? : Option String := none
  /-- The name of the kind of entity that filters are about. -/
  kind? : Option String := none
  /-- The level of log lines. -/
  level? : Option String := none
  /-- The name of the format of log lines. -/
  format? : Option String := none
  deriving DecidableEq, Repr

/-- What stands under a path: nothing, or a file with its text or the reason why there is
none. -/
abbrev Found := Option (Except FileFault String)

namespace Config

/-- The configuration in a file. -/
def load (reason : String → String) (path : String) (content : Except FileFault String) :
    Except ConfigError Config :=
  match content with
  | .error fault => .error (.unread path fault)
  | .ok text =>
    match Toml.read? text >>= ofEntries? with
    | none => .error (.unparsed path (reason text))
    | some c => .ok { c with origin? := some path }

/-- Let the environment choose the kind of entity; a name of no kind leaves a warning. -/
def overrideKind (c : Config) (name : String) : Config :=
  match EntityKind.ofText? name with
  | .ok kind => { c with defaultKind := kind }
  | .error reason => { c with warnings := c.warnings ++ [.ignoredKind reason] }

/-- Let the environment override a configuration. -/
def override (c : Config) (o : Overrides) : Config :=
  let c := match o.snapshot? with
    | some path => { c with snapshot? := some path }
    | none => c
  let c := match o.kind? with
    | some name => c.overrideKind name
    | none => c
  { c with level := o.level?.getD c.level, format := o.format?.getD c.format }

/-- The configuration in a file, overridden by the environment. -/
def loadWith (reason : String → String) (o : Overrides) (path : String)
    (content : Except FileFault String) : Except ConfigError Config :=
  (load reason path content).map (·.override o)

/-- The first candidate that can be used, or the defaults.  `failures` are the faults of the
candidates before, whose warnings come first. -/
def loadFirst (reason : String → String) (o : Overrides) (failures : List ConfigError) :
    List (String × Found) → Config
  | [] => warned ({ : Config}.override o)
  | (_, none) :: rest => loadFirst reason o failures rest
  | (path, some content) :: rest =>
    match loadWith reason o path content with
    | .ok c => warned c
    | .error e => loadFirst reason o (failures ++ [e]) rest
where
  /-- The configuration with the faults of earlier candidates as its first warnings. -/
  warned (c : Config) : Config := { c with warnings := failures.map .skipped ++ c.warnings }

end Config

end FleetQuery
