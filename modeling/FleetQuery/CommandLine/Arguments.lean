import FleetQuery.Entity.Kind

/-!
# Command-line arguments

The program is called with a command, `query`, `fields` or `config`, and with options before and
after it.  `readArguments` turns the arguments into a `Request`, or says that they are wrong.
An option is given by its long name after two hyphens, or by its letter after one; letters may
be joined, and a value follows as the next argument, after `=`, or right after the letter.  After
`--` every argument is a plain word.  No option may be given twice, except that `--config` may
stand both before and after the command, where the latter counts.
-/

namespace FleetQuery

/-- The options. -/
inductive Switch
  /-- The configuration file. -/
  | config
  /-- Ask for containers. -/
  | containers
  /-- Ask for images. -/
  | images
  /-- The snapshot file. -/
  | snapshot
  /-- The file to write to. -/
  | output
  /-- Ask for help. -/
  | help
  /-- Ask for the version. -/
  | version
  deriving DecidableEq, Repr

namespace Switch

/-- The long name of an option. -/
def longName : Switch → String
  | config => "config"
  | containers => "containers"
  | images => "images"
  | snapshot => "snapshot"
  | output => "output"
  | help => "help"
  | version => "version"

/-- The letter of an option, if it has one. -/
def letter? : Switch → Option Char
  | config => none
  | containers => some 'c'
  | images => some 'i'
  | snapshot => none
  | output => some 'o'
  | help => some 'h'
  | version => some 'V'

/-- The option needs a value. -/
def takesValue : Switch → Bool
  | config => true
  | snapshot => true
  | output => true
  | _ => false

end Switch

/-- What a call asks for. -/
inductive Command
  /-- Print the ids that match a filter. -/
  | query (filter : String) (kind? : Option EntityKind) (snapshot? : Option String)
  /-- List the fields of a kind of entity. -/
  | fields (kind : EntityKind)
  /-- Write the configuration template. -/
  | template (output? : Option String)
  deriving DecidableEq, Repr

/-- What the arguments say. -/
inductive Request
  /-- Carry out a command, with a configuration file of the user's choice. -/
  | run (command : Command) (config? : Option String)
  /-- Print the version. -/
  | version
  /-- Print how to call the program. -/
  | help
  /-- The arguments are wrong. -/
  | misuse
  deriving DecidableEq, Repr

/-- The words and options of one part of a call, as far as they have been read. -/
structure Given where
  /-- The options with their values, empty for those that take none. -/
  switches : List (Switch × String) := []
  /-- The plain words. -/
  words : List String := []
  /-- An option whose value is the next argument. -/
  pending? : Option Switch := none
  /-- After `--`, every argument is a plain word. -/
  onlyWords : Bool := false
  deriving DecidableEq, Repr

/-- What the arguments of one part of a call allow. -/
structure Part where
  /-- The options that may stand here. -/
  switches : List Switch
  /-- The number of plain words that may stand here. -/
  words : Nat
  /-- The commands that end this part. -/
  commands : List String
  deriving DecidableEq, Repr

namespace Given

/-- The option was given. -/
def has (g : Given) (s : Switch) : Bool := (g.switches.lookup s).isSome

/-- The value of an option. -/
def value? (g : Given) (s : Switch) : Option String := g.switches.lookup s

/-- Take up an option.  It may not be given twice, an earlier option may not wait for its value,
and a value may not be empty; the options for help and version settle the call. -/
def take (g : Given) (s : Switch) (value : String) : Except Request Given :=
  if g.pending?.isSome then .error .misuse
  else if s == .help then .error .help
  else if s == .version then .error .version
  else if g.has s || (s.takesValue && value.isEmpty) then .error .misuse
  else .ok { g with switches := g.switches ++ [(s, value)] }

/-- Wait for the value of an option. -/
def await (g : Given) (s : Switch) : Except Request Given :=
  if g.pending?.isSome then .error .misuse else .ok { g with pending? := some s }

/-- Take up a long option, without its hyphens. -/
def takeLong (p : Part) (g : Given) (name : List Char) : Except Request Given :=
  let long := String.ofList (name.takeWhile (· != '='))
  match p.switches.find? (·.longName == long), name.dropWhile (· != '=') with
  | none, _ => .error .misuse
  | some s, [] => if s.takesValue then g.await s else g.take s ""
  | some s, _ :: value => if s.takesValue then g.take s (String.ofList value) else .error .misuse

/-- Take up options by their letters. -/
def takeLetters (p : Part) (g : Given) : List Char → Except Request Given
  | [] => .ok g
  | c :: cs =>
    match p.switches.find? (·.letter? == some c) with
    | none => .error .misuse
    | some s =>
      if s.takesValue then
        match cs with
        | [] => g.await s
        | '=' :: value => g.take s (String.ofList value)
        | value => g.take s (String.ofList value)
      else do
        let g ← g.take s ""
        takeLetters p g cs

/-- Take up a plain word. -/
def takeWord (p : Part) (g : Given) (word : String) : Except Request Given :=
  if g.words.length < p.words then .ok { g with words := g.words ++ [word] } else .error .misuse

/-- Take up an argument that is no command. -/
def takeArgument (p : Part) (g : Given) (arg : String) : Except Request Given :=
  if g.onlyWords then takeWord p g arg
  else match arg.toList with
    | ['-', '-'] => if g.pending?.isSome then .error .misuse else .ok { g with onlyWords := true }
    | '-' :: '-' :: name => takeLong p g name
    | '-' :: c :: cs => takeLetters p g (c :: cs)
    | _ =>
      match g.pending? with
      | some s => { g with pending? := none }.take s arg
      | none => takeWord p g arg

end Given

namespace Part

/-- Read arguments up to the end, or up to a command, which comes with the arguments after it. -/
def read (p : Part) : Given → List String →
    Except Request (Given × Option (String × List String))
  | g, [] => if g.pending?.isSome then .error .misuse else .ok (g, none)
  | g, arg :: args =>
    if !g.onlyWords && g.pending?.isNone && p.commands.contains arg then
      .ok (g, some (arg, args))
    else do
      let g ← g.takeArgument p arg
      p.read g args

/-- What may stand before the command. -/
def main : Part := ⟨[.config, .help, .version], 0, ["query", "fields", "config", "help"]⟩

/-- What may stand after `query`. -/
def query : Part := ⟨[.containers, .images, .snapshot, .config, .help], 1, []⟩

/-- What may stand after `fields`. -/
def fields : Part := ⟨[.images, .config, .help], 0, []⟩

/-- What may stand after `config`. -/
def template : Part := ⟨[.output, .config, .help], 0, []⟩

end Part

namespace Command

/-- The command that `query` and what follows it stand for. -/
def ofQuery (g : Given) : Except Request Command :=
  match g.words with
  | [filter] =>
    if g.has .containers && g.has .images then .error .misuse
    else
      let kind? := if g.has .images then some EntityKind.image
        else if g.has .containers then some .container
        else none
      .ok (query filter kind? (g.value? .snapshot))
  | _ => .error .misuse

/-- The command that `fields` and what follows it stand for. -/
def ofFields (g : Given) : Except Request Command :=
  .ok (fields (if g.has .images then .image else .container))

/-- The command that `config` and what follows it stand for. -/
def ofTemplate (g : Given) : Except Request Command := .ok (template (g.value? .output))

end Command

/-- Read a call: options, a command, and what follows the command. -/
def readCall (args : List String) : Except Request Request := do
  let (outer, command?) ← Part.main.read {} args
  match command? with
  | some ("query", args) => finish outer .query Command.ofQuery args
  | some ("fields", args) => finish outer .fields Command.ofFields args
  | some ("config", args) => finish outer .template Command.ofTemplate args
  | some (_, []) => .ok .help
  | some (_, [name]) => if Part.main.commands.contains name then .ok .help else .error .misuse
  | _ => .error .misuse
where
  /-- Read what follows a command. -/
  finish (outer : Given) (p : Part) (command : Given → Except Request Command)
      (args : List String) : Except Request Request := do
    let (inner, _) ← p.read {} args
    let c ← command inner
    .ok (.run c ((inner.value? .config).or (outer.value? .config)))

/-- What the arguments of a call ask for. -/
def readArguments (args : List String) : Request :=
  match readCall args with
  | .ok r => r
  | .error r => r

end FleetQuery
