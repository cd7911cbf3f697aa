import FleetQuery.CommandLine.Run
import Mathlib.Data.List.TakeWhile

/-!
# Which configuration is loaded

A configuration is put together from the environment, from the first candidate file that can be
used, and from defaults:

* `FileSettings` : what a file says, with everything open that it leaves open;
* `Config.settings?`, `Config.fault?` : what a candidate says, or why one that exists cannot be
  used;
* `Config.complaint?` : what is said about one that cannot, word for word;
* `Config.LoadedFrom` : every setting of a configuration with its sources in order, and its
  warnings;
* `Config.loadFirst_settings` : **the configuration that is loaded is this one**, for all candidates
  and all environments.

A candidate that cannot be used leaves a warning and nothing else.  Where its text describes no
configuration, the warning ends in the words of the reader of such texts, which are those of `toml`.
-/

namespace FleetQuery

open Toml

/-! ### What files say -/

/-- What a file says about a configuration. -/
structure FileSettings where
  /-- The snapshot file. -/
  snapshot? : Option String
  /-- The kind of entity that filters are about. -/
  kind? : Option EntityKind
  /-- The level of log lines. -/
  level? : Option String
  /-- The name of the format of log lines. -/
  format? : Option String
  /-- The file that log lines go to. -/
  logFile? : Option String

namespace FileSettings

/-- What a document says. -/
def ofEntries? (es : Entries) : Option FileSettings := do
  match ← Config.group? es "source" ["snapshot"] 1, ← Config.group? es "query" ["default_kind"] 0,
      ← Config.group? es "logging" ["level", "format", "file"] 3 with
  | [snapshot], [kind], [level, format, file] =>
    some ⟨← Config.optionally Value.text? snapshot, ← Config.optionally Value.kind? kind,
      ← Config.optionally Value.text? level, ← Config.optionally Value.text? format,
      ← Config.optionally Value.text? file⟩
  | _, _, _ => none

/-- What a text says, if it is a document that describes a configuration. -/
def read? (text : String) : Option FileSettings := Toml.read? text >>= ofEntries?

/-- The configuration with these settings, and with the defaults for those that are open. -/
def config (f : FileSettings) : Config where
  snapshot? := f.snapshot?
  defaultKind := f.kind?.getD .container
  level := f.level?.getD "warn"
  format := f.format?.getD "pretty"
  logFile? := f.logFile?

/-- A configuration is what its document says, with the defaults where that says nothing. -/
theorem ofEntries?_eq (es : Entries) : Config.ofEntries? es = (ofEntries? es).map config := by
  unfold Config.ofEntries? ofEntries?
  rcases Config.group? es "source" ["snapshot"] 1 with _ | source
  · rfl
  rcases Config.group? es "query" ["default_kind"] 0 with _ | query
  · rfl
  rcases Config.group? es "logging" ["level", "format", "file"] 3 with _ | logging
  · rfl
  simp only [Option.bind_eq_bind, Option.bind_some]
  split
  · simp only [Option.map_bind, Function.comp_def, Option.map_some]
    rfl
  · simp_all

end FileSettings

namespace Config

/-! ### Candidates -/

/-- What a candidate says, if it exists, can be read and describes a configuration. -/
def settings? : String × Found → Option (String × FileSettings)
  | (path, some (.ok text)) => (FileSettings.read? text).map (path, ·)
  | _ => none

/-- Why a candidate that exists cannot be used. -/
def fault? (toml : String → String) : String × Found → Option ConfigError
  | (_, none) => none
  | (path, some (.error fault)) => some (.unread path fault)
  | (path, some (.ok text)) =>
    if (FileSettings.read? text).isSome then none else some (.unparsed path (toml text))

/-- What is said about a candidate that exists and cannot be used. -/
def complaint? (toml : String → String) : String × Found → Option String
  | (_, none) => none
  | (path, some (.error fault)) =>
    some ("Failed to read config file " ++ quotedText path ++ ": " ++ fault.message)
  | (path, some (.ok text)) =>
    if (FileSettings.read? text).isSome then none
    else some ("Failed to parse config file " ++ quotedText path ++ ": " ++ toml text)

/-- The candidates before the first that can be used. -/
def passedOver (candidates : List (String × Found)) : List (String × Found) :=
  candidates.takeWhile fun c => (settings? c).isNone

/-- The configuration of the file that was chosen, or the defaults. -/
def chosen : Option (String × FileSettings) → Config
  | some (path, f) => { f.config with origin? := some path }
  | none => {}

section Candidates

variable {c : String × Found} {cs : List (String × Found)} {f : String × FileSettings}

theorem passedOver_cons_of_settings (h : settings? c = some f) : passedOver (c :: cs) = [] := by
  simp [passedOver, h]

theorem passedOver_cons_of_none (h : settings? c = none) :
    passedOver (c :: cs) = c :: passedOver cs := by
  simp [passedOver, h]

theorem complaint?_eq_map (toml : String → String) (c : String × Found) :
    complaint? toml c = (fault? toml c).map ConfigError.message := by
  obtain ⟨path, _ | fault | text⟩ := c
  · rfl
  · rfl
  · rw [complaint?, fault?]
    split <;> rfl

end Candidates

/-- A candidate that exists can be used, or there is a fault. -/
theorem load_eq (toml : String → String) (path : String) (content : Except FileFault String) :
    (∃ f, settings? (path, some content) = some f ∧ load toml path content = .ok (chosen f)) ∨
      settings? (path, some content) = none ∧
        ∃ e, fault? toml (path, some content) = some e ∧ load toml path content = .error e := by
  rcases content with fault | text
  · exact .inr ⟨rfl, _, rfl, rfl⟩
  · have hload : Toml.read? text >>= Config.ofEntries? =
        (FileSettings.read? text).map FileSettings.config := by
      rw [FileSettings.read?]
      cases Toml.read? text with
      | none => rfl
      | some es => exact FileSettings.ofEntries?_eq es
    simp only [settings?, fault?, load, hload]
    cases FileSettings.read? text with
    | none => exact .inr ⟨rfl, _, rfl, rfl⟩
    | some f => exact .inl ⟨_, rfl, rfl⟩

/-! ### The environment -/

/-- The kind that a text names. -/
def kindNamed? (name : String) : Option EntityKind := (EntityKind.ofText? name).toOption

/-- The warning about the name of a kind that names none. -/
def kindWarnings (name? : Option String) : List ConfigWarning :=
  match name?.map EntityKind.ofText? with
  | some (.error reason) => [.ignoredKind reason]
  | _ => []

theorem override_eq (c : Config) (o : Overrides) :
    c.override o =
      { c with
        snapshot? := o.snapshot?.or c.snapshot?
        defaultKind := (o.kind?.bind kindNamed?).getD c.defaultKind
        level := o.level?.getD c.level
        format := o.format?.getD c.format
        warnings := c.warnings ++ kindWarnings o.kind? } := by
  obtain ⟨snapshot?, kind?, level?, format?⟩ := o
  rcases kind? with _ | name
  · cases snapshot? <;> simp [override, kindWarnings]
  · cases h : EntityKind.ofText? name <;> cases snapshot? <;>
      simp [override, overrideKind, kindWarnings, kindNamed?, h, Except.toOption]

variable {o : Overrides} {toml : String → String}

/-- The first candidate that can be used is taken, and the environment overrides it. -/
theorem loadFirst_eq (failures : List ConfigError) (candidates : List (String × Found)) :
    loadFirst toml o failures candidates =
      loadFirst.warned (failures ++ (passedOver candidates).filterMap (fault? toml))
        ((chosen (candidates.findSome? settings?)).override o) := by
  induction candidates generalizing failures with
  | nil =>
    rw [loadFirst, passedOver, List.takeWhile_nil, List.filterMap_nil, List.append_nil]
    rfl
  | cons candidate rest ih =>
    obtain ⟨path, _ | content⟩ := candidate
    · rw [loadFirst, ih, passedOver_cons_of_none rfl, List.findSome?_cons]
      rfl
    · rw [loadFirst, loadWith, List.findSome?_cons]
      obtain ⟨f, hf, hload⟩ | ⟨hf, e, he, hload⟩ := load_eq toml path content
      · rw [hload, passedOver_cons_of_settings hf, hf, List.filterMap_nil, List.append_nil]
        rfl
      · rw [passedOver_cons_of_none hf, hf, List.filterMap_cons, he, hload]
        dsimp only [Except.map]
        rw [ih, List.append_assoc, List.singleton_append]

theorem findSome?_filter_settings (candidates : List (String × Found)) :
    (candidates.filter fun c => (settings? c).isSome).findSome? settings? =
      candidates.findSome? settings? := by
  induction candidates with
  | nil => rfl
  | cons candidate rest ih =>
    rw [List.filter_cons, List.findSome?_cons]
    cases h : settings? candidate with
    | none => simpa [h] using ih
    | some file => simp [h]

/-! ### All settings -/

/-- Every setting of a configuration, with where it comes from.  `environment` gives the values of
environment variables, and the file is the first candidate that can be used, if there is one.
`toml` says what is wrong with a text that describes no configuration. -/
structure LoadedFrom (toml : String → String) (environment : String → Option String)
    (candidates : List (String × Found)) (c : Config) : Prop where
  /-- The origin is the path of the file. -/
  origin?_eq : c.origin? = (candidates.findSome? settings?).map (·.1)
  /-- The snapshot is that of the environment, else that of the file, else none. -/
  snapshot?_eq : c.snapshot? =
    (environment "BATEAU_SNAPSHOT").or ((candidates.findSome? settings?).bind (·.2.snapshot?))
  /-- The kind is that of the environment if it names one, else that of the file, else
  containers. -/
  defaultKind_eq : c.defaultKind =
    (((environment "BATEAU_DEFAULT_KIND").bind kindNamed?).or
      ((candidates.findSome? settings?).bind (·.2.kind?))).getD .container
  /-- The level is that of the environment, else that of the file, else `warn`. -/
  level_eq : c.level =
    ((environment "BATEAU_LOG_LEVEL").or
      ((candidates.findSome? settings?).bind (·.2.level?))).getD "warn"
  /-- The format is that of the environment, else that of the file, else `pretty`. -/
  format_eq : c.format =
    ((environment "BATEAU_LOG_FORMAT").or
      ((candidates.findSome? settings?).bind (·.2.format?))).getD "pretty"
  /-- The log file is that of the file. -/
  logFile?_eq : c.logFile? = (candidates.findSome? settings?).bind (·.2.logFile?)
  /-- The warnings are the faults of the candidates before the file, in order, and then the one
  about the kind that the environment asks for. -/
  warnings_eq : c.warnings =
    ((passedOver candidates).filterMap (fault? toml)).map .skipped ++
      kindWarnings (environment "BATEAU_DEFAULT_KIND")
  /-- Their texts are what is said about these candidates, and then one that names the variable. -/
  messages_eq : c.warnings.map ConfigWarning.message =
    (passedOver candidates).filterMap (complaint? toml) ++
      match (environment "BATEAU_DEFAULT_KIND").map EntityKind.ofText? with
      | some (.error reason) => ["Ignoring BATEAU_DEFAULT_KIND: " ++ reason]
      | _ => []

theorem map_message_skipped (candidates : List (String × Found)) :
    ((candidates.filterMap (fault? toml)).map ConfigWarning.skipped).map ConfigWarning.message =
      candidates.filterMap (complaint? toml) := by
  have hcomplaint : complaint? toml = fun c => (fault? toml c).map ConfigError.message :=
    funext (complaint?_eq_map toml)
  rw [List.map_map, List.map_filterMap, hcomplaint]
  rfl

theorem map_message_kindWarnings (name? : Option String) :
    (kindWarnings name?).map ConfigWarning.message =
      match name?.map EntityKind.ofText? with
      | some (.error reason) => ["Ignoring BATEAU_DEFAULT_KIND: " ++ reason]
      | _ => [] := by
  rw [kindWarnings]
  split <;> rfl

theorem loadedFrom_override (environment : String → Option String)
    (candidates : List (String × Found)) :
    LoadedFrom toml environment candidates
      (loadFirst toml
        { snapshot? := environment "BATEAU_SNAPSHOT"
          kind? := environment "BATEAU_DEFAULT_KIND"
          level? := environment "BATEAU_LOG_LEVEL"
          format? := environment "BATEAU_LOG_FORMAT" } [] candidates) := by
  have hwarnings : ((passedOver candidates).filterMap (fault? toml)).map ConfigWarning.skipped ++
        ((chosen (candidates.findSome? settings?)).warnings ++
          kindWarnings (environment "BATEAU_DEFAULT_KIND")) =
      ((passedOver candidates).filterMap (fault? toml)).map .skipped ++
        kindWarnings (environment "BATEAU_DEFAULT_KIND") := by
    cases candidates.findSome? settings? <;> rfl
  rw [loadFirst_eq, override_eq, loadFirst.warned, List.nil_append]
  constructor
  case warnings_eq => exact hwarnings
  case messages_eq =>
    rw [hwarnings, List.map_append, map_message_skipped, map_message_kindWarnings]
  all_goals
    cases candidates.findSome? settings? with
    | none => simp [chosen]
    | some file => simp [chosen, FileSettings.config]

/-- **The configuration that is loaded** has its settings from the environment, from the first
candidate that exists, can be read and describes a configuration, and from the defaults, in this
order; its warnings are the faults of the existing candidates before that one, and the one about the
kind.  Candidates that cannot be used leave nothing else: without them it is the same
configuration. -/
theorem loadFirst_settings (wording : Wording) (m : Machine) (candidates : List (String × Found)) :
    let o := ((CommandLine.overrides (Machine.host wording)).run m).1
    let c := loadFirst wording.toml o [] candidates
    LoadedFrom wording.toml (fun name => m.environment.lookup name) candidates c ∧
      { loadFirst wording.toml o [] (candidates.filter fun c => (settings? c).isSome) with
          warnings := [] } =
        { c with warnings := [] } := by
  intro o c
  refine ⟨loadedFrom_override _ candidates, ?_⟩
  rw [loadFirst_eq, findSome?_filter_settings]
  exact congrArg (fun c : Config => { c with warnings := [] }) (loadFirst_eq [] candidates).symm

end Config

end FleetQuery
