import FleetQuery.CommandLine.Run
import FleetQuery.Proofs.Entity.Clocked
import FleetQuery.Proofs.Filter.Reading

/-!
# How a query ends

A query goes through its stages on any system, and what it shows is decided by the first of them
that fails, or by the ids that match:

* `Configures`, `Opens`, `Loads`, `scanned` : what comes of the stages that look at the system, and
  the state in which they leave it;
* `Outcome` : how a query ends, with one case for each stage that may fail and one for success; a
  case says that all stages before went well;
* `headline`, `Reports` : what the report says of the failure of each stage, word for word;
* `Shows` : the exit code, the output and the report for an end;
* `run_query` : **every query that is called for has an end, and shows what belongs to it**.

A system is a `Host` over a state, which may be anything: the answers of the system may change from
one question to the next, as they do when lines of the log go to the file of the snapshot, and as
the clock does while entities are compared.
-/

namespace FleetQuery

namespace CommandLine

variable {σ α β : Type} {host : Host (StateM σ)} {s s₁ s₂ s₃ : σ} {c : Config} {log : Log}
  {path : String}

/-! ### Stages -/

/-- What comes of a stage that starts in a state, and the state in which it leaves the system. -/
def runStage (stage : ExceptT RunError (StateM σ) α) (s : σ) : Except RunError α × σ :=
  stage.run.run s

theorem runStage_pure (a : α) (s : σ) :
    runStage (pure a : ExceptT RunError (StateM σ) α) s = (.ok a, s) := rfl

theorem runStage_lift (action : StateM σ α) (s : σ) :
    runStage (liftM action) s = (.ok (action.run s).1, (action.run s).2) := rfl

theorem runStage_bind (stage : ExceptT RunError (StateM σ) α)
    (next : α → ExceptT RunError (StateM σ) β) (s : σ) :
    runStage (stage >>= next) s =
      match runStage stage s with
      | (.ok a, s₁) => runStage (next a) s₁
      | (.error e, s₁) => (.error e, s₁) := by
  simp only [runStage, ExceptT.run_bind, StateT.run_bind]
  rcases stage.run.run s with ⟨e | a, s₁⟩ <;> rfl

/-- The system after an event has been logged. -/
def told (host : Host (StateM σ)) (log : Log) (s : σ) (event : LogEvent) : σ :=
  ((log.note host event).run s).2

theorem runStage_tell (event : LogEvent) (s : σ) :
    runStage (tell host log event) s = (.ok (), told host log s event) := rfl

theorem runStage_forM_tell (event : α → LogEvent) (as : List α) (s : σ) :
    runStage (as.forM fun a => tell host log (event a)) s =
      (.ok (), (as.map event).foldl (told host log) s) := by
  induction as generalizing s with
  | nil => rfl
  | cons a as ih =>
    rw [List.forM_eq_forM, List.forM_cons, runStage_bind, runStage_tell, List.map_cons,
      List.foldl_cons]
    exact ih _

/-! ### The configuration -/

/-- The texts under some paths, looked at one after the other. -/
def findAll (host : Host (StateM σ)) : List String → σ → List (String × Found) × σ
  | [], s => ([], s)
  | path :: paths, s =>
    let (found, s) := (host.find path).run s
    let (candidates, s) := findAll host paths s
    ((path, found.map (· >>= FileFault.decode)) :: candidates, s)

theorem runStage_mapM_find (paths : List String) (s : σ) :
    runStage (paths.mapM fun path => do
        return (path, (← liftM (host.find path)).map (· >>= FileFault.decode))) s =
      (.ok (findAll host paths s).1, (findAll host paths s).2) := by
  induction paths generalizing s with
  | nil => rfl
  | cons path paths ih =>
    rw [List.mapM_cons, runStage_bind, runStage_bind, runStage_lift]
    dsimp only
    rw [runStage_pure]
    dsimp only
    rw [runStage_bind, ih]
    rfl

/-- The configuration of a query, or why there is none. -/
inductive Configures (host : Host (StateM σ)) (s : σ) :
    Option String → Except ConfigError Config → σ → Prop
  /-- The file of the user's choice has to be usable. -/
  | chosen {path : String} {o : Overrides} {content : Except FileFault ByteArray} {s₁ s₂ : σ} :
      (overrides host).run s = (o, s₁) → (host.read path).run s₁ = (content, s₂) →
        Configures host s (some path)
          (Config.loadWith host.wording.toml o path (content >>= FileFault.decode)) s₂
  /-- Of the usual places any or none may have one that is. -/
  | usual {o : Overrides} {directory? : Option String} {candidates : List (String × Found)}
      {s₁ s₂ s₃ : σ} :
      (overrides host).run s = (o, s₁) → host.configDirectory?.run s₁ = (directory?, s₂) →
        findAll host (candidatePaths directory?) s₂ = (candidates, s₃) →
        Configures host s none (.ok (Config.loadFirst host.wording.toml o [] candidates)) s₃

theorem exists_configures (host : Host (StateM σ)) (s : σ) (config? : Option String) :
    ∃ r s₁, Configures host s config? r s₁ := by
  cases config? with
  | some path => exact ⟨_, _, .chosen rfl rfl⟩
  | none => exact ⟨_, _, .usual rfl rfl rfl⟩

theorem Configures.runStage_eq {config? : Option String} {r : Except ConfigError Config}
    (h : Configures host s config? r s₁) :
    runStage (loadConfig host config?) s = (r.mapError .config, s₁) := by
  cases h with
  | @chosen path o content s₁ s₂ ho hcontent =>
    rw [loadConfig, runStage_bind, runStage_lift, ho]
    dsimp only
    rw [runStage_bind, runStage_lift, hcontent]
    dsimp only
    cases Config.loadWith host.wording.toml o path (content >>= FileFault.decode) <;> rfl
  | usual ho hdirectory hcandidates =>
    rw [loadConfig, runStage_bind, runStage_lift, ho]
    dsimp only
    rw [runStage_bind, runStage_lift, hdirectory]
    dsimp only
    rw [runStage_bind, runStage_mapM_find, hcandidates]
    rfl

/-! ### The log -/

/-- The log of a query, or why it cannot be opened.  Once it is open, it is told where the
configuration comes from and what its warnings are. -/
inductive Opens (host : Host (StateM σ)) (c : Config) (s : σ) : Except RunError Log → σ → Prop
  /-- The log file cannot be written. -/
  | failed {directives? : Option String} {path : String} {fault : FileFault} {s₁ s₂ : σ} :
      (host.environment "RUST_LOG").run s = (directives?, s₁) → c.logFile? = some path →
        (host.append path "").run s₁ = (.error fault, s₂) →
        Opens host c s (.error (.log path fault)) s₂
  /-- Log lines go to a file. -/
  | file {directives? : Option String} {path : String} {log : Log} {s₁ s₂ : σ} :
      (host.environment "RUST_LOG").run s = (directives?, s₁) → c.logFile? = some path →
        (host.append path "").run s₁ = (.ok (), s₂) →
        log = ⟨some path, c.logFilter directives?, c.logFormat⟩ →
        Opens host c s (.ok log) ((.configured c.origin? ::
          c.warnings.map fun problem => .warned problem.message).foldl (told host log) s₂)
  /-- Log lines go to the standard error. -/
  | standardError {directives? : Option String} {log : Log} {s₁ : σ} :
      (host.environment "RUST_LOG").run s = (directives?, s₁) → c.logFile? = none →
        log = ⟨none, c.logFilter directives?, c.logFormat⟩ →
        Opens host c s (.ok log) ((.configured c.origin? ::
          c.warnings.map fun problem => .warned problem.message).foldl (told host log) s₁)

theorem exists_opens (host : Host (StateM σ)) (c : Config) (s : σ) :
    ∃ r s₁, Opens host c s r s₁ := by
  cases hfile : c.logFile? with
  | none => exact ⟨_, _, .standardError rfl hfile rfl⟩
  | some path =>
    rcases hopen : (host.append path "").run ((host.environment "RUST_LOG").run s).2
      with ⟨fault | ⟨⟨⟩⟩, s₂⟩
    · exact ⟨_, _, .failed rfl hfile hopen⟩
    · exact ⟨_, _, .file rfl hfile hopen rfl⟩

theorem run_start_file (h : log.file? = some path) (s : σ) :
    (log.start host).run s =
      (((host.append path "").run s).1.mapError fun fault => (path, fault),
        ((host.append path "").run s).2) := by
  rw [Log.start, h]
  rfl

theorem run_start_standardError (h : log.file? = none) (s : σ) :
    (log.start host).run s = (.ok (), s) := by
  rw [Log.start, h]
  rfl

theorem runStage_openLog {directives? : Option String}
    (hdirectives : (host.environment "RUST_LOG").run s = (directives?, s₁)) :
    runStage (openLog host c) s =
      match (Log.start ⟨c.logFile?, c.logFilter directives?, c.logFormat⟩ host).run s₁ with
      | (.error (path, fault), s₂) => (.error (.log path fault), s₂)
      | (.ok (), s₂) =>
        (.ok ⟨c.logFile?, c.logFilter directives?, c.logFormat⟩,
          (.configured c.origin? :: c.warnings.map fun problem => .warned problem.message).foldl
            (told host ⟨c.logFile?, c.logFilter directives?, c.logFormat⟩) s₂) := by
  rw [openLog, runStage_bind, runStage_lift, hdirectives]
  dsimp only
  rw [runStage_bind, runStage_lift]
  rcases (Log.start ⟨c.logFile?, c.logFilter directives?, c.logFormat⟩ host).run s₁
    with ⟨⟨path, fault⟩ | ⟨⟨⟩⟩, s₂⟩
  · rfl
  · dsimp only
    rw [runStage_bind, runStage_tell]
    dsimp only
    rw [runStage_bind, runStage_forM_tell]
    rfl

theorem Opens.runStage_eq {r : Except RunError Log} (h : Opens host c s r s₁) :
    runStage (openLog host c) s = (r, s₁) := by
  cases h with
  | failed hdirectives hfile hopen =>
    rw [runStage_openLog hdirectives, run_start_file hfile, hopen]
    rfl
  | file hdirectives hfile hopen hlog =>
    rw [runStage_openLog hdirectives, run_start_file hfile, hopen, hlog, ← hfile]
    rfl
  | standardError hdirectives hfile hlog =>
    rw [runStage_openLog hdirectives, run_start_standardError hfile, hlog, ← hfile]

/-! ### The snapshot -/

/-- The snapshot of a query, or why it cannot be loaded. -/
inductive Loads (host : Host (StateM σ)) (log : Log) (path : String) (s : σ) :
    Except SourceError Snapshot → σ → Prop
  /-- It is read from the standard input. -/
  | input {content : Except FileFault ByteArray} {s₁ : σ} :
      FilePath.isStandardInput path = true →
        host.readInput.run (told host log s .readingInput) = (content, s₁) →
        Loads host log path s (Snapshot.read host.wording.json content) s₁
  /-- It is read from a file. -/
  | file {content : Except FileFault ByteArray} {snapshot : Snapshot} {s₁ : σ} :
      FilePath.isStandardInput path = false → (host.read path).run s = (content, s₁) →
        snapshotOf host.wording.json path content = .ok snapshot →
        Loads host log path s (.ok snapshot)
          (told host log s₁ (.loaded path snapshot.containers.length snapshot.images.length))
  /-- The file holds no snapshot. -/
  | failed {content : Except FileFault ByteArray} {e : SourceError} {s₁ : σ} :
      FilePath.isStandardInput path = false → (host.read path).run s = (content, s₁) →
        snapshotOf host.wording.json path content = .error e → Loads host log path s (.error e) s₁

theorem exists_loads (host : Host (StateM σ)) (log : Log) (path : String) (s : σ) :
    ∃ r s₁, Loads host log path s r s₁ := by
  cases hinput : FilePath.isStandardInput path with
  | true => exact ⟨_, _, .input hinput rfl⟩
  | false =>
    cases hsnapshot : snapshotOf host.wording.json path ((host.read path).run s).1 with
    | error e => exact ⟨_, _, .failed hinput rfl hsnapshot⟩
    | ok snapshot => exact ⟨_, _, .file hinput rfl hsnapshot⟩

theorem Loads.runStage_eq {r : Except SourceError Snapshot} (h : Loads host log path s r s₁) :
    runStage (loadSnapshot host log path) s = (r.mapError (.snapshot path), s₁) := by
  cases h with
  | @input content s₁ hinput hcontent =>
    rw [loadSnapshot]
    simp only [hinput, if_true]
    rw [runStage_bind, runStage_tell]
    dsimp only
    rw [runStage_bind, runStage_lift, hcontent]
    dsimp only
    cases Snapshot.read host.wording.json content <;> rfl
  | file hinput hcontent hsnapshot =>
    rw [loadSnapshot]
    simp only [hinput, Bool.false_eq_true, if_false]
    rw [runStage_bind, runStage_lift, hcontent]
    dsimp only
    rw [hsnapshot]
    rfl
  | failed hinput hcontent hsnapshot =>
    rw [loadSnapshot]
    simp only [hinput, Bool.false_eq_true, if_false]
    rw [runStage_bind, runStage_lift, hcontent]
    dsimp only
    rw [hsnapshot]
    rfl

/-! ### The scan -/

/-- What comes of the scan of a snapshot by the clock of the system, with each inspection logged
before it is made, and the state in which it leaves the system. -/
def scanned (host : Host (StateM σ)) (log : Log) (snapshot : Snapshot) (kind : EntityKind)
    (e : Expr) (s : σ) : Except QueryError (List String) × σ :=
  let inspector := snapshot.inspectorM.announcing fun kind id => log.note host (.inspecting kind id)
  (scanM inspector kind host.now e).run.run s

/-- **A scan gives what `scanAt` gives** at instants that the clock of the system gives. -/
theorem exists_instants_scanned (host : Host (StateM σ)) (log : Log) (snapshot : Snapshot)
    (kind : EntityKind) (e : Expr) (s : σ) (last : Instant) :
    ∃ instants, (∀ now ∈ instants, Gives host.now now) ∧
      (scanned host log snapshot kind e s).1 =
        ((scanAt snapshot.inspector kind (Clock.listed last) e).runFrom (instants, ())).1 := by
  obtain ⟨instants, _, hgives, -, hrun⟩ := snapshot.replays_scanM
    (fun kind id => log.note host (.inspecting kind id)) host.now last kind e s () trivial
  refine ⟨instants, hgives, ?_⟩
  have hanswer := congrArg Prod.fst (hrun [])
  rw [List.append_nil] at hanswer
  exact hanswer.symm

theorem runStage_runScan (kind : EntityKind) (matcher : Matcher) (snapshot : Snapshot) (s : σ) :
    (runStage (runScan host log kind matcher snapshot) s).1 =
      (scanned host log snapshot kind matcher.expr s).1.mapError .query := by
  let inspector := snapshot.inspectorM.announcing fun kind id => log.note host (.inspecting kind id)
  have hscan : runStage ((scanM inspector kind host.now matcher.expr).adapt RunError.query) s =
      ((scanned host log snapshot kind matcher.expr s).1.mapError .query,
        (scanned host log snapshot kind matcher.expr s).2) := rfl
  rw [runScan, runStage_bind, hscan]
  rcases scanned host log snapshot kind matcher.expr s with ⟨err | ids, s₁⟩ <;> rfl

/-! ### The call -/

/-- A call for a query. -/
structure QueryCall where
  /-- The text of the filter. -/
  filter : String
  /-- The kind of entity, if the call says so. -/
  kind? : Option EntityKind
  /-- The snapshot file, if the call names one. -/
  snapshot? : Option String
  /-- The configuration file, if the call names one. -/
  config? : Option String

namespace QueryCall

/-- The kind of entity: that of the call, or else that of the configuration. -/
def kind (q : QueryCall) (c : Config) : EntityKind := q.kind?.getD c.defaultKind

/-- The snapshot file: that of the call, or else that of the configuration. -/
def path? (q : QueryCall) (c : Config) : Option String := q.snapshot?.or c.snapshot?

/-- The call is what the words and options before and behind `query` say. -/
structure Spelled (args : List String) (q : QueryCall) (outer inner : Given) : Prop where
  /-- The arguments are read up to the command and from there to their end. -/
  read : ∃ rest after?, Part.main.read {} args = .ok (outer, some ("query", rest)) ∧
    Part.query.read {} rest = .ok (inner, after?)
  /-- The filter is the only word. -/
  filter : inner.words = [q.filter]
  /-- `--images` asks for images. -/
  images : inner.has .images = true → q.kind? = some .image
  /-- `--containers` asks for containers. -/
  containers : inner.has .containers = true → q.kind? = some .container
  /-- Without one of these options no kind is given. -/
  neither : inner.has .images = false → inner.has .containers = false → q.kind? = none
  /-- The snapshot is the value of its option. -/
  snapshot : q.snapshot? = inner.value? .snapshot
  /-- The configuration is the value of its option, of which the latter counts. -/
  config : q.config? = (inner.value? .config).or (outer.value? .config)

/-- One word is the filter, and the options for containers and for images exclude each other. -/
theorem ofQuery_eq_ok {g : Given} {filter : String} {kind? : Option EntityKind}
    {snapshot? : Option String} (h : Command.ofQuery g = .ok (.query filter kind? snapshot?)) :
    g.words = [filter] ∧ (g.has .containers && g.has .images) = false ∧
      kind? = (if g.has .images then some .image
        else if g.has .containers then some .container else none) ∧
      snapshot? = g.value? .snapshot := by
  rw [Command.ofQuery] at h
  split at h
  · rename_i word hwords
    split_ifs at h with hboth
    all_goals
      cases h
      simp_all
  · cases h

theorem exists_spelled {args : List String} {q : QueryCall}
    (h : readCall args = .ok (.run (.query q.filter q.kind? q.snapshot?) q.config?)) :
    ∃ outer inner, Spelled args q outer inner := by
  obtain ⟨⟨outer, command?⟩, hmain, h⟩ := except_bind_eq_ok.1 h
  have hfinish : ∀ {p : Part} {command rest},
      readCall.finish outer p command rest =
        .ok (.run (.query q.filter q.kind? q.snapshot?) q.config?) →
      ∃ inner after?, p.read {} rest = .ok (inner, after?) ∧
        command inner = .ok (.query q.filter q.kind? q.snapshot?) ∧
        q.config? = (inner.value? .config).or (outer.value? .config) := by
    intro p command rest h
    obtain ⟨⟨inner, after?⟩, hread, h⟩ := except_bind_eq_ok.1 h
    obtain ⟨c, hc, h⟩ := except_bind_eq_ok.1 h
    obtain ⟨rfl, hconfig⟩ := Request.run.inj (Except.ok.inj h)
    exact ⟨inner, after?, hread, hc, hconfig.symm⟩
  dsimp only at h
  split at h
  · obtain ⟨inner, after?, hread, hcommand, hconfig⟩ := hfinish h
    obtain ⟨hwords, hboth, hkind, hsnapshot⟩ := ofQuery_eq_ok hcommand
    refine ⟨outer, inner, ⟨_, after?, hmain, hread⟩, hwords, ?_, ?_, ?_, hsnapshot, hconfig⟩
    all_goals
      rw [hkind]
      revert hboth
      cases inner.has .images <;> cases inner.has .containers <;> simp
  -- the other commands are no queries
  · obtain ⟨_, _, _, hcommand, _⟩ := hfinish h
    cases hcommand
  · obtain ⟨_, _, _, hcommand, _⟩ := hfinish h
    cases hcommand
  · cases h
  · split at h <;> cases h
  · cases h

end QueryCall

/-! ### The end of a query -/

/-- The configuration is made, and the log is open. -/
def Ready (host : Host (StateM σ)) (q : QueryCall) (s : σ) (c : Config) (log : Log) (s₂ : σ) :
    Prop :=
  ∃ s₁, Configures host s q.config? (.ok c) s₁ ∧ Opens host c s₁ (.ok log) s₂

/-- How a query ends: the ids that match, or the failure of the first stage that fails. -/
inductive Outcome (host : Host (StateM σ)) (q : QueryCall) (s : σ) :
    Except RunError (List String) → Prop
  /-- The configuration file of the user's choice cannot be used. -/
  | configuration {e : ConfigError} {s₁ : σ} :
      Configures host s q.config? (.error e) s₁ → Outcome host q s (.error (.config e))
  /-- The log cannot be opened. -/
  | log {c : Config} {e : RunError} {s₁ s₂ : σ} :
      Configures host s q.config? (.ok c) s₁ → Opens host c s₁ (.error e) s₂ →
        Outcome host q s (.error e)
  /-- Neither the call nor the configuration names a snapshot. -/
  | noSnapshot {c : Config} {log : Log} {s₂ : σ} :
      Ready host q s c log s₂ → q.path? c = none → Outcome host q s (.error .noSnapshot)
  /-- The filter is refused. -/
  | filter {c : Config} {log : Log} {path : String} {e : FilterError} {s₂ : σ} :
      Ready host q s c log s₂ → q.path? c = some path →
        parseFilter (q.kind c).schema q.filter = .error e → Outcome host q s (.error (.filter e))
  /-- The snapshot cannot be loaded. -/
  | snapshot {c : Config} {log : Log} {path : String} {e : Expr} {err : SourceError} {s₂ s₃ : σ} :
      Ready host q s c log s₂ → q.path? c = some path →
        parseFilter (q.kind c).schema q.filter = .ok e →
        Loads host log path (told host log s₂ (.compiled (q.kind c).schema.name e.display))
          (.error err) s₃ →
        Outcome host q s (.error (.snapshot path err))
  /-- The scan fails. -/
  | scan {c : Config} {log : Log} {path : String} {e : Expr} {snapshot : Snapshot}
      {err : QueryError} {s₂ s₃ s₄ : σ} :
      Ready host q s c log s₂ → q.path? c = some path →
        parseFilter (q.kind c).schema q.filter = .ok e →
        Loads host log path (told host log s₂ (.compiled (q.kind c).schema.name e.display))
          (.ok snapshot) s₃ →
        scanned host log snapshot (q.kind c) e s₃ = (.error err, s₄) →
        Outcome host q s (.error (.query err))
  /-- The ids that match are found. -/
  | ids {c : Config} {log : Log} {path : String} {e : Expr} {snapshot : Snapshot}
      {ids : List String} {s₂ s₃ s₄ : σ} :
      Ready host q s c log s₂ → q.path? c = some path →
        parseFilter (q.kind c).schema q.filter = .ok e →
        Loads host log path (told host log s₂ (.compiled (q.kind c).schema.name e.display))
          (.ok snapshot) s₃ →
        scanned host log snapshot (q.kind c) e s₃ = (.ok ids, s₄) → Outcome host q s (.ok ids)

/-- A query comes to an end in every case. -/
theorem exists_outcome (host : Host (StateM σ)) (q : QueryCall) (s : σ) :
    ∃ r, Outcome host q s r := by
  obtain ⟨_ | c, s₁, hconfig⟩ := exists_configures host s q.config?
  · exact ⟨_, .configuration hconfig⟩
  obtain ⟨_ | log, s₂, hlog⟩ := exists_opens host c s₁
  · exact ⟨_, .log hconfig hlog⟩
  have hready : Ready host q s c log s₂ := ⟨s₁, hconfig, hlog⟩
  cases hpath : q.path? c with
  | none => exact ⟨_, .noSnapshot hready hpath⟩
  | some path =>
    cases hfilter : parseFilter (q.kind c).schema q.filter with
    | error e => exact ⟨_, .filter hready hpath hfilter⟩
    | ok e =>
      obtain ⟨_ | snapshot, s₃, hload⟩ := exists_loads host log path
        (told host log s₂ (.compiled (q.kind c).schema.name e.display))
      · exact ⟨_, .snapshot hready hpath hfilter hload⟩
      · rcases hscan : scanned host log snapshot (q.kind c) e s₃ with ⟨err | ids, s₄⟩
        · exact ⟨_, .scan hready hpath hfilter hload hscan⟩
        · exact ⟨_, .ids hready hpath hfilter hload hscan⟩

theorem runStage_perform {q : QueryCall} (h : Ready host q s c log s₂) :
    runStage (perform host q.config? (.query q.filter q.kind? q.snapshot?)) s =
      runStage (runQuery host c log q.filter q.kind? q.snapshot?) s₂ := by
  obtain ⟨s₁, hconfig, hlog⟩ := h
  rw [perform, runStage_bind, hconfig.runStage_eq]
  dsimp only [Except.mapError]
  rw [runStage_bind, hlog.runStage_eq]
  rfl

section Query

variable {q : QueryCall} {e : Expr}

theorem runStage_runQuery (hpath : q.path? c = some path)
    (hfilter : parseFilter (q.kind c).schema q.filter = .ok e) (s : σ) :
    runStage (runQuery host c log q.filter q.kind? q.snapshot?) s =
      runStage (do
          let snapshot ← loadSnapshot host log path
          idLines <$> runScan host log (q.kind c) ⟨q.filter, e⟩ snapshot)
        (told host log s (.compiled (q.kind c).schema.name e.display)) := by
  have hmatcher : Matcher.parse (q.kind c).schema q.filter = .ok ⟨q.filter, e⟩ := by
    rw [Matcher.parse, hfilter]
    rfl
  rw [QueryCall.path?] at hpath
  rw [QueryCall.kind] at hmatcher ⊢
  simp only [runQuery, hpath, hmatcher]
  rw [runStage_bind, runStage_tell]
  rfl

theorem runStage_map (f : α → β) (stage : ExceptT RunError (StateM σ) α) (s : σ) :
    (runStage (f <$> stage) s).1 = (runStage stage s).1.map f := by
  rw [← bind_pure_comp, runStage_bind]
  rcases runStage stage s with ⟨_ | a, s₁⟩ <;> rfl

theorem runStage_loaded {snapshot : Snapshot} (hpath : q.path? c = some path)
    (hfilter : parseFilter (q.kind c).schema q.filter = .ok e)
    (hload : Loads host log path (told host log s (.compiled (q.kind c).schema.name e.display))
      (.ok snapshot) s₃) :
    (runStage (runQuery host c log q.filter q.kind? q.snapshot?) s).1 =
      ((scanned host log snapshot (q.kind c) e s₃).1.mapError .query).map idLines := by
  rw [runStage_runQuery hpath hfilter, runStage_bind, hload.runStage_eq]
  exact (runStage_map _ _ _).trans (congrArg (Except.map idLines) (runStage_runScan ..))

end Query

/-- What a query prints is decided by how it ends. -/
theorem Outcome.runStage_eq {q : QueryCall} {r : Except RunError (List String)}
    (h : Outcome host q s r) :
    (runStage (perform host q.config? (.query q.filter q.kind? q.snapshot?)) s).1 =
      r.map idLines := by
  cases h with
  | configuration hconfig =>
    rw [perform, runStage_bind, hconfig.runStage_eq]
    rfl
  | log hconfig hlog =>
    rw [perform, runStage_bind, hconfig.runStage_eq]
    dsimp only [Except.mapError]
    rw [runStage_bind, hlog.runStage_eq]
    rfl
  | noSnapshot hready hpath =>
    rw [QueryCall.path?] at hpath
    rw [runStage_perform hready, runQuery, hpath]
    rfl
  | filter hready hpath hfilter =>
    rw [QueryCall.path?] at hpath
    rw [QueryCall.kind] at hfilter
    rw [runStage_perform hready]
    simp only [runQuery, hpath, Matcher.parse, hfilter]
    rfl
  | snapshot hready hpath hfilter hload =>
    rw [runStage_perform hready, runStage_runQuery hpath hfilter, runStage_bind, hload.runStage_eq]
    rfl
  | scan hready hpath hfilter hload hscan =>
    rw [runStage_perform hready, runStage_loaded hpath hfilter hload, hscan]
    rfl
  | ids hready hpath hfilter hload hscan =>
    rw [runStage_perform hready, runStage_loaded hpath hfilter hload, hscan]
    rfl

/-! ### What a query shows -/

/-- What is said of a source that cannot answer, and of what lies behind that. -/
def sourceComplaint : SourceError → String
  | .unopened path fault =>
    "Failed to read snapshot " ++ quotedText path ++ ": " ++ fault.message ++ ": " ++ fault.message
  | .invalid _ reason => "Invalid snapshot: " ++ reason ++ ": " ++ reason
  | .notFound kind id => "Error while retrieving " ++ kind.name ++ " " ++ id ++ ": not found"

/-- What is said of a query that fails, and of what lies behind that. -/
def queryComplaint : QueryError → String
  | .filter e => "Invalid query: " ++ e.message ++ ": " ++ e.message
  | .literal e => "Invalid literal: " ++ e.message ++ ": " ++ e.message
  | .comparison e => "Comparison error: " ++ e.message ++ ": " ++ e.message
  | .invalidField display => "Invalid field " ++ display
  | .source e => "Source error: " ++ e.message ++ ": " ++ sourceComplaint e

/-- What is said of a configuration file that cannot be used. -/
def configComplaint : ConfigError → String
  | .unread path fault => "Failed to read config file " ++ quotedText path ++ ": " ++ fault.message
  | .unparsed path reason => "Failed to parse config file " ++ quotedText path ++ ": " ++ reason

/-- What is said of a failure, and of what lies behind it.  The first words tell the stage. -/
def complaint : RunError → String
  | .config e => configComplaint e
  | .log path fault => "Cannot open log file " ++ path ++ ": " ++ fault.message
  | .noSnapshot => "No snapshot given: pass --snapshot or set source.snapshot in the config"
  | .filter e => e.fault.message ++ " at position " ++ toString e.position
  | .snapshot path e => "Cannot load snapshot " ++ quotedText path ++ ": " ++ sourceComplaint e
  | .query e => queryComplaint e
  | .save fault => fault.message

/-- The first line of a report. -/
def headline (e : RunError) : String := "Error: " ++ complaint e ++ "\n"

theorem intercalate_pair (first second : String) :
    ": ".intercalate [first, second] = first ++ ": " ++ second := by
  rw [String.intercalate_cons_cons, String.intercalate_singleton]

theorem intercalate_sourceError (e : SourceError) :
    ": ".intercalate (e.message :: e.cause?.toList) = sourceComplaint e := by
  cases e with
  | unopened _ _ | invalid _ _ => exact intercalate_pair _ _
  | notFound _ _ => exact String.intercalate_singleton

theorem intercalate_queryError (e : QueryError) :
    ": ".intercalate (e.message :: e.causes) = queryComplaint e := by
  cases e with
  | filter _ | literal _ | comparison _ => exact intercalate_pair _ _
  | invalidField _ => exact String.intercalate_singleton
  | source e =>
    rw [QueryError.causes, String.intercalate_cons_cons, intercalate_sourceError]
    rfl

theorem intercalate_chain (e : RunError) : ": ".intercalate e.chain = complaint e := by
  cases e with
  | config e => cases e <;> exact String.intercalate_singleton
  | noSnapshot | filter _ | save _ => exact String.intercalate_singleton
  | log _ _ => exact intercalate_pair _ _
  | snapshot path e =>
    have htail : ": ".intercalate (e.message :: e.cause?.toList) = sourceComplaint e :=
      intercalate_sourceError e
    exact String.intercalate_cons_cons.trans (congrArg _ htail)
  | query e => exact intercalate_queryError e

/-- The report of a failure: the headline, and below it the text with a caret exactly if a filter or
a literal in a filter is at fault. -/
inductive Reports : RunError → String → Prop
  /-- The filter is shown, with a caret under the place where it was refused. -/
  | filter (e : FilterError) :
      Reports (.filter e) (headline (.filter e) ++ (e.caret ++ "\n"))
  /-- The literal is shown, with a caret under the place where it was refused. -/
  | literal (e : LiteralError) :
      Reports (.query (.literal e)) (headline (.query (.literal e)) ++ (e.caret ++ "\n"))
  /-- No other failure has a place in a text. -/
  | plain {e : RunError} : (∀ f, e ≠ .filter f) → (∀ l, e ≠ .query (.literal l)) →
      Reports e (headline e)

theorem caret?_eq_some_iff {e : RunError} {picture : String} :
    e.caret? = some picture ↔ (∃ f, e = .filter f ∧ f.caret = picture) ∨
      ∃ l, e = .query (.literal l) ∧ l.caret = picture := by
  unfold RunError.caret?
  split <;> simp_all

theorem report_eq (e : RunError) :
    e.report = headline e ++ (e.caret?.map (· ++ "\n")).getD "" := by
  rw [RunError.report, intercalate_chain, headline]

theorem reports_report (e : RunError) : Reports e e.report := by
  rw [report_eq]
  cases hcaret : e.caret? with
  | none =>
    rw [Option.map_none, Option.getD_none, String.append_empty]
    refine .plain ?_ ?_
    · rintro f rfl
      cases hcaret
    · rintro l rfl
      cases hcaret
  | some picture =>
    obtain ⟨f, rfl, rfl⟩ | ⟨l, rfl, rfl⟩ := caret?_eq_some_iff.1 hcaret
    · exact .filter f
    · exact .literal l

/-- What is shown for an end. -/
inductive Shows : Except RunError (List String) → RunResult → Prop
  /-- The ids are printed, each on a line of its own, and nothing is reported. -/
  | ids (ids : List String) :
      Shows (.ok ids) { code := 0, output := String.join (ids.map (· ++ "\n")), report := "" }
  /-- A failure is reported, and nothing is printed. -/
  | failed {e : RunError} {report : String} : Reports e report →
      Shows (.error e) { code := 1, output := "", report }

/-- **A query shows how it ends.**  Whatever the call, the system and its state are, the query has
an end: the failure of the first of its stages that fails, in the order of configuration and log,
path of the snapshot, filter, snapshot and scan, or else the ids that match.  It prints all of these
ids in the one case and nothing in the other, and it reports the failure, with a caret if and only
if a filter or a literal is at fault. -/
theorem run_query (host : Host (StateM σ)) (s : σ) (args : List String) (q : QueryCall)
    (h : readCall args = .ok (.run (.query q.filter q.kind? q.snapshot?) q.config?)) :
    (∃ outer inner, q.Spelled args outer inner) ∧ (∃ r, Outcome host q s r) ∧
      ∀ r, Outcome host q s r → Shows r ((run host args).run s).1 := by
  refine ⟨QueryCall.exists_spelled h, exists_outcome host q s, fun r hr => ?_⟩
  have hend := hr.runStage_eq
  rw [runStage] at hend
  rw [run, readArguments, h]
  simp only [StateT.run_bind]
  revert hend
  rcases (perform host q.config? (.query q.filter q.kind? q.snapshot?)).run.run s
    with ⟨e | output, s₁⟩ <;> intro hend
  · cases r with
    | error _ =>
      cases hend
      exact .failed (reports_report e)
    | ok _ => cases hend
  · cases r with
    | error _ => cases hend
    | ok ids =>
      cases hend
      exact .ids ids

/-- The scan of the second image fails, and the id of the first one, which matches, is not
printed. -/
theorem run_query_second_image :
    let silent : Wording := ⟨fun _ => "", fun _ => "", fun _ => "", fun _ => ""⟩
    let host : Host (StateM Machine) := { Machine.host silent with
      find := fun _ => pure none
      read := fun _ => pure (.ok "\x7b\"images\": [[\"a\"], [\"b\"]]\x7d".toUTF8) }
    let m : Machine := { now := ⟨⟨2024, 1, 15, by decide⟩, 50400, 0, by decide⟩ }
    let args := ["query", "-i", "id = 'a' | size > 'x'", "--snapshot", "/fleet.json"]
    let q : QueryCall := ⟨"id = 'a' | size > 'x'", some .image, some "/fleet.json", none⟩
    let e : RunError := .query (.literal ⟨.missingNumber, 0, "x"⟩)
    readCall args = .ok (.run (.query q.filter q.kind? q.snapshot?) q.config?) ∧
      Outcome host q m (.error e) ∧ Shows (.error e) ((run host args).run m).1 := by
  intro silent host m args q e
  have hcall : readCall args = .ok (.run (.query q.filter q.kind? q.snapshot?) q.config?) := rfl
  let expr : Expr := .or (.leaf ⟨.named "id", .eq, "a"⟩) (.leaf ⟨.named "size", .gt, "x"⟩)
  let snapshot : Snapshot := { images := [⟨"a", 0, none⟩, ⟨"b", 0, none⟩] }
  have hfilter : parseFilter EntityKind.image.schema q.filter = .ok expr := by decide +kernel
  have hsnapshot : snapshotOf silent.json "/fleet.json"
      (.ok "\x7b\"images\": [[\"a\"], [\"b\"]]\x7d".toUTF8) = .ok snapshot := by decide +kernel
  have hscan : ∀ log s, scanned host log snapshot .image expr s =
      (.error (.literal ⟨.missingNumber, 0, "x"⟩), s) := fun _ _ => by with_unfolding_all rfl
  have hready : ∃ c log s₂, Ready host q m c log s₂ ∧ q.path? c = some "/fleet.json" :=
    ⟨_, _, _, ⟨_, .usual rfl rfl rfl, .standardError rfl rfl rfl⟩, rfl⟩
  obtain ⟨c, log, s₂, hready, hpath⟩ := hready
  have hend : Outcome host q m (.error e) :=
    .scan hready hpath hfilter (.file rfl rfl hsnapshot) (hscan _ _)
  exact ⟨hcall, hend, (run_query host m args q hcall).2.2 _ hend⟩

end CommandLine

end FleetQuery
