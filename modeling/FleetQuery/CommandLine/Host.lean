import FleetQuery.Config.Load
import FleetQuery.Files.Tree
import FleetQuery.Time.Instant

/-!
# Hosts

What the program needs from the system that it runs on, and from the readers that come with it.
The program is written for any `Host`; `Machine.host` is one whose files and environment are a
value.  `Host.save` writes a file and makes the directories around it.
-/

namespace FleetQuery

/-- The words of the readers of arguments, configurations and snapshots. -/
structure Wording where
  /-- The help that some arguments ask for. -/
  help : List String → String
  /-- What is wrong with some arguments. -/
  misuse : List String → String
  /-- Why a text describes no configuration. -/
  toml : String → String
  /-- Why some bytes are no snapshot. -/
  json : ByteArray → String

/-- A system that the program can run on. -/
structure Host (m : Type → Type) where
  /-- The words of the readers. -/
  wording : Wording
  /-- The value of an environment variable. -/
  environment : String → m (Option String)
  /-- The directory of the user's configuration files. -/
  configDirectory? : m (Option String)
  /-- What stands under a path: nothing, or a file with its bytes or the reason why there are
  none. -/
  find : String → m (Option (Except FileFault ByteArray))
  /-- The bytes of the file under a path. -/
  read : String → m (Except FileFault ByteArray)
  /-- The bytes of the standard input. -/
  readInput : m (Except FileFault ByteArray)
  /-- Add a text to the end of a file; a file that is not there is made. -/
  append : String → String → m (Except FileFault Unit)
  /-- Write a text to a file, in the place of what it holds. -/
  write : String → String → m (Except FileFault Unit)
  /-- Make a directory. -/
  makeDirectory : String → m (Except FileFault Unit)
  /-- A directory stands under a path. -/
  isDirectory : String → m Bool
  /-- Write a text to the standard error. -/
  printError : String → m Unit
  /-- The present instant. -/
  now : m Instant

namespace Host

variable {m : Type → Type} [Monad m]

/-- Make a directory if it is missing, and first the directories around it that are; the paths are
given innermost first. -/
def makeDirectories (host : Host m) : List String → m (Except FileFault Unit)
  | [] => pure (.ok ())
  | path :: outer => do
    match ← host.makeDirectory path with
    | .error .notFound =>
      match ← host.makeDirectories outer with
      | .ok () => settle path (← host.makeDirectory path)
      | failure => pure failure
    | result => settle path result
where
  /-- No directory can be made where one stands, and that is no failure. -/
  settle (path : String) : Except FileFault Unit → m (Except FileFault Unit)
    | .ok () => pure (.ok ())
    | .error fault => do
      if ← host.isDirectory path then pure (.ok ()) else pure (.error fault)

/-- Write a text to a file, with the directories around it made first. -/
def save (host : Host m) (path text : String) : m (Except FileFault Unit) := do
  match ← host.makeDirectories (FilePath.enclosing path).reverse with
  | .ok () => host.write path text
  | failure => pure failure

end Host

/-- A system whose files and environment are a value. -/
structure Machine where
  /-- The files. -/
  files : FileTree := {}
  /-- The environment variables. -/
  environment : List (String × String) := []
  /-- The text of the standard input. -/
  input : String := ""
  /-- The directory of the user's configuration files. -/
  configDirectory? : Option String := none
  /-- The present instant. -/
  now : Instant
  /-- What has been written to the standard error. -/
  errorOutput : String := ""
  deriving Repr

namespace Machine

/-- Change the files, unless that fails. -/
def change (f : FileTree → Except FileFault FileTree) : StateM Machine (Except FileFault Unit) :=
  fun m =>
    match f m.files with
    | .ok files => (.ok (), { m with files })
    | .error e => (.error e, m)

/-- The bytes of the file under a path. -/
def read (m : Machine) (path : String) : Except FileFault ByteArray :=
  (m.files.read path).map String.toUTF8

/-- The machine as a host. -/
def host (wording : Wording) : Host (StateM Machine) where
  wording
  environment name := do return (← get).environment.lookup name
  configDirectory? := do return (← get).configDirectory?
  find path := do
    let m ← get
    return if m.files.exists? path then some (m.read path) else none
  read path := do return (← get).read path
  readInput := do return .ok (← get).input.toUTF8
  append path text := change (·.append path text)
  write path text := change (·.write path text)
  makeDirectory path := change (·.makeDirectory path)
  isDirectory path := do return (← get).files.isDirectory path
  printError text := modify fun m => { m with errorOutput := m.errorOutput ++ text }
  now := do return (← get).now

end Machine

end FleetQuery
