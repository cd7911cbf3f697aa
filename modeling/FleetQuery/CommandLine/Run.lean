import FleetQuery.CommandLine.Arguments
import FleetQuery.CommandLine.Log
import FleetQuery.Config.Template
import FleetQuery.Entity.Scan

/-!
# Running the program

A run first loads the configuration and opens the log, then carries out its command.  A query
goes through its stages in order: the path of the snapshot, the filter, the snapshot, the scan.
The first stage that fails ends the run, and is reported.  Events are logged as they happen, so a
stage may read what an earlier one has logged, and the clock is read whenever a comparison looks at
it.
-/

namespace FleetQuery

/-- Why a run fails. -/
inductive RunError
  /-- The configuration file cannot be used. -/
  | config (e : ConfigError)
  /-- The log file cannot be opened. -/
  | log (path : String) (fault : FileFault)
  /-- Nobody says where the entities are. -/
  | noSnapshot
  /-- The filter was refused. -/
  | filter (e : FilterError)
  /-- The snapshot cannot be loaded. -/
  | snapshot (path : String) (e : SourceError)
  /-- The scan failed. -/
  | query (e : QueryError)
  /-- The template cannot be written. -/
  | save (fault : FileFault)
  deriving DecidableEq, Repr

namespace RunError

/-- What went wrong, from the outside in. -/
def chain : RunError → List String
  | config e => [e.message]
  | log path fault => ["Cannot open log file " ++ path, fault.message]
  | noSnapshot => ["No snapshot given: pass --snapshot or set source.snapshot in the config"]
  | filter e => [e.message]
  | snapshot path e => ("Cannot load snapshot " ++ quotedText path) :: e.message :: e.cause?.toList
  | query e => e.message :: e.causes
  | save fault => [fault.message]

/-- The text with a caret under the offending place, for a filter or a literal. -/
def caret? : RunError → Option String
  | filter e => some e.caret
  | query (.literal e) => some e.caret
  | _ => none

/-- The lines that report a failure. -/
def report (e : RunError) : String :=
  "Error: " ++ ": ".intercalate e.chain ++ "\n" ++ (e.caret?.map (· ++ "\n")).getD ""

end RunError

/-- What a run leaves behind. -/
structure RunResult where
  /-- The exit code: 0 for success, 1 for failure, 2 for wrong arguments. -/
  code : Nat
  /-- What is printed. -/
  output : String := ""
  /-- The report of a failure, or what is wrong with the arguments. -/
  report : String := ""
  deriving DecidableEq, Repr

namespace CommandLine

/-- The name and the version of the program. -/
def versionText : String := "bateau 0.1.0\n"

/-- A text with spaces after it up to a width. -/
def padRight (width : Nat) (s : String) : String :=
  s ++ String.ofList (List.replicate (width - s.length) ' ')

/-- The table of the fields of a kind of entity. -/
def fieldTable (kind : EntityKind) : String :=
  let row (rule : FieldRule) : String :=
    padRight 16 rule.spec.display ++ " " ++ " ".intercalate (rule.operators.map Operator.display)
      ++ "\n"
  padRight 16 "FIELD" ++ " OPERATORS\n" ++ String.join (kind.schema.rules.map row)

/-- The lines of the ids that match. -/
def idLines (ids : List String) : String := String.join (ids.map (· ++ "\n"))

variable {m : Type → Type} [Monad m]

/-- What the environment says about the configuration. -/
def overrides (host : Host m) : m Overrides := do
  return {
    snapshot? := ← host.environment "BATEAU_SNAPSHOT"
    kind? := ← host.environment "BATEAU_DEFAULT_KIND"
    level? := ← host.environment "BATEAU_LOG_LEVEL"
    format? := ← host.environment "BATEAU_LOG_FORMAT" }

/-- The paths where configuration files are looked for. -/
def candidatePaths (configDirectory? : Option String) : List String :=
  (configDirectory?.map (· ++ "/bateau/config.toml")).toList
    ++ ["/etc/bateau/config.toml", "./bateau.toml"]

/-- The configuration, from the file of the user's choice or from the usual places. -/
def loadConfig (host : Host m) (config? : Option String) : ExceptT RunError m Config := do
  let o ← (overrides host : m Overrides)
  match config? with
  | some path =>
    let content ← host.read path
    match Config.loadWith host.wording.toml o path (content >>= FileFault.decode) with
    | .ok c => pure c
    | .error e => throw (.config e)
  | none =>
    let paths := candidatePaths (← host.configDirectory?)
    let candidates ← paths.mapM fun path => do
      return (path, (← host.find path).map (· >>= FileFault.decode))
    pure (Config.loadFirst host.wording.toml o [] candidates)

/-- Log an event as part of a stage. -/
def tell (host : Host m) (log : Log) (event : LogEvent) : ExceptT RunError m Unit :=
  ExceptT.lift (log.note host event)

/-- Open the log that the configuration asks for, and log how the configuration was made. -/
def openLog (host : Host m) (c : Config) : ExceptT RunError m Log := do
  let log : Log := {
    file? := c.logFile?
    filter := c.logFilter (← host.environment "RUST_LOG")
    format := c.logFormat }
  match ← (log.start host : m _) with
  | .error (path, fault) => throw (.log path fault)
  | .ok () =>
    tell host log (.configured c.origin?)
    c.warnings.forM fun problem => tell host log (.warned problem.message)
    pure log

/-- The snapshot in a file.  A directory opens but cannot be read. -/
def snapshotOf (reason : ByteArray → String) (path : String)
    (content : Except FileFault ByteArray) : Except SourceError Snapshot :=
  match content with
  | .ok _ => Snapshot.read reason content
  | .error .isDirectory => Snapshot.read reason content
  | .error fault => .error (.unopened path fault)

/-- Load a snapshot from a file or from the standard input. -/
def loadSnapshot (host : Host m) (log : Log) (path : String) : ExceptT RunError m Snapshot := do
  if FilePath.isStandardInput path then
    tell host log .readingInput
    match Snapshot.read host.wording.json (← host.readInput) with
    | .error e => throw (.snapshot path e)
    | .ok s => pure s
  else
    match snapshotOf host.wording.json path (← host.read path) with
    | .error e => throw (.snapshot path e)
    | .ok s =>
      tell host log (.loaded path s.containers.length s.images.length)
      pure s

/-- Scan a snapshot by the clock of the host.  What is inspected is logged first. -/
def runScan (host : Host m) (log : Log) (kind : EntityKind) (matcher : Matcher) (s : Snapshot) :
    ExceptT RunError m (List String) := do
  let inspector := s.inspectorM.announcing fun kind id => log.note host (.inspecting kind id)
  let ids ← (scanM inspector kind host.now matcher.expr).adapt RunError.query
  tell host log (.scanned kind matcher.display (s.size kind) ids.length)
  pure ids

/-- Carry out a query. -/
def runQuery (host : Host m) (c : Config) (log : Log) (filter : String)
    (kind? : Option EntityKind) (snapshot? : Option String) : ExceptT RunError m String := do
  let kind := kind?.getD c.defaultKind
  match snapshot?.or c.snapshot? with
  | none => throw .noSnapshot
  | some path =>
    match Matcher.parse kind.schema filter with
    | .error e => throw (.filter e)
    | .ok matcher =>
      tell host log (.compiled kind.schema.name matcher.display)
      let s ← loadSnapshot host log path
      idLines <$> runScan host log kind matcher s

/-- Write the template to a file, or give it as output. -/
def runTemplate (host : Host m) : Option String → ExceptT RunError m String
  | none => pure configTemplate
  | some path => do
    match ← host.save path configTemplate with
    | .error fault => throw (.save fault)
    | .ok () => pure ("Config written to " ++ quotedText path ++ "\n")

/-- Carry out a command: what it prints. -/
def runCommand (host : Host m) (c : Config) (log : Log) : Command → ExceptT RunError m String
  | .query filter kind? snapshot? => runQuery host c log filter kind? snapshot?
  | .fields kind => pure (fieldTable kind)
  | .template output? => runTemplate host output?

/-- Carry out a command with a configuration of the user's choice: what it prints. -/
def perform (host : Host m) (config? : Option String) (command : Command) :
    ExceptT RunError m String := do
  let c ← loadConfig host config?
  let log ← openLog host c
  runCommand host c log command

/-- Run the program. -/
def run (host : Host m) (args : List String) : m RunResult := do
  match readArguments args with
  | .misuse => return { code := 2, report := host.wording.misuse args }
  | .version => return { code := 0, output := versionText }
  | .help => return { code := 0, output := host.wording.help args }
  | .run command config? =>
    match ← (perform host config? command).run with
    | .error e => return { code := 1, report := e.report }
    | .ok output => return { code := 0, output }

end CommandLine

end FleetQuery
