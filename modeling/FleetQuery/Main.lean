import FleetQuery.CommandLine.Run
import Std.Time.DateTime.Timestamp
import Std.Time.Date.PlainDate

/-!
# The program

The system that the program runs on, as a `Host`, and `main`.  Only this module does input and
output; what the program prints and writes is decided by `CommandLine.run`.
-/

namespace FleetQuery

namespace LocalSystem

/-- The fault with a number and a wording of the system; some of its calls give the number with a
minus sign and the wording in small letters. -/
def numberedFault (number : UInt32) (wording : String) : FileFault :=
  let number := if 0x80000000 ≤ number then 0 - number else number
  match number with
  | 2 => .notFound
  | 17 => .occupied
  | 20 => .notDirectory
  | 21 => .isDirectory
  | 36 => .nameTooLong
  | _ => .stated (wording.capitalize ++ " (os error " ++ toString number.toNat ++ ")")

/-- The fault behind an error of the system. -/
def fault : IO.Error → FileFault
  | .alreadyExists _ number wording => numberedFault number wording
  | .noFileOrDirectory _ number wording => numberedFault number wording
  | .invalidArgument _ number wording => numberedFault number wording
  | .permissionDenied _ number wording => numberedFault number wording
  | .resourceExhausted _ number wording => numberedFault number wording
  | .inappropriateType _ number wording => numberedFault number wording
  | .noSuchThing _ number wording => numberedFault number wording
  | .otherError number wording => numberedFault number wording
  | e => .stated e.toString

/-- Do something with files. -/
def attempt {α : Type} (action : IO α) : IO (Except FileFault α) := do
  try
    return .ok (← action)
  catch e =>
    return .error (fault e)

/-- Do something with what stands under a path, which needs to be free of null characters. -/
def attemptAt {α : Type} (path : String) (action : IO α) : IO (Except FileFault α) :=
  if path.toList.contains '\x00' then return .error .nullInPath else attempt action

/-- The bytes of the file under a path. -/
def readFile (path : String) : IO (Except FileFault ByteArray) :=
  attemptAt path (IO.FS.readBinFile path)

/-- Something stands under a path, if the path leads anywhere. -/
def isThere (path : String) : IO Bool := do
  return (← attemptAt path (IO.FS.realPath path)).toBool

/-- What stands under a path, whether or not it can be read. -/
def findFile (path : String) : IO (Option (Except FileFault ByteArray)) := do
  if ← isThere path then return some (← readFile path) else return none

/-- All that is left of a stream, after `read`. -/
partial def readStream (stream : IO.FS.Stream) (read : ByteArray) : IO ByteArray := do
  let more ← stream.read 65536
  if more.isEmpty then return read
  readStream stream (read ++ more)

/-- The bytes of the standard input. -/
def readInput : IO (Except FileFault ByteArray) :=
  attempt do readStream (← IO.getStdin) ByteArray.empty

/-- Add a text to the end of a file; a file that is not there is made. -/
def append (path text : String) : IO (Except FileFault Unit) :=
  attemptAt path do (← IO.FS.Handle.mk path .append).putStr text

/-- A directory stands under a path, if the path can be gone on from. -/
def isDirectory (path : String) : IO Bool := isThere (path ++ "/.")

/-- The directory of the user's configuration files. -/
def configDirectory? : IO (Option String) := do
  match (← IO.getEnv "XDG_CONFIG_HOME").filter FilePath.isAbsolute with
  | some path => return some path
  | none => return (← IO.getEnv "HOME").map (· ++ "/.config")

/-- The present instant. -/
def now : IO Instant := do
  let time ← Std.Time.Timestamp.now
  let seconds := time.toSecondsSinceUnixEpoch.val
  let day := Std.Time.PlainDate.ofEpochDay ⟨seconds / secondsPerDay⟩
  let instant? := do
    let date ← Date.of? day.year.toInt day.month.val.toNat day.day.val.toNat
    Instant.of? date (seconds % secondsPerDay).toNat time.val.nano.val.toNat
  match instant? with
  | some instant => return instant
  | none => throw (.userError "the clock is out of range")

/-- How to call the program. -/
def usage : String :=
  "Usage: bateau [--config <CONFIG>] <COMMAND>\n\n" ++
  "Commands:\n" ++
  "  query   Print the ids of entities matching a filter\n" ++
  "  fields  List the fields and operators a filter may use\n" ++
  "  config  Generate default config file\n"

/-- The words of the readers of this program, which say that something is wrong and not what. -/
def wording : Wording where
  help _ := "Filter containers and images with a small boolean query language\n\n" ++ usage
  misuse _ := "error: these arguments are no call\n\n" ++ usage
  toml _ := "the text is no configuration"
  json _ := "the text is no snapshot"

/-- The system that the program runs on. -/
def host : Host IO where
  wording
  environment name := IO.getEnv name
  configDirectory? := configDirectory?
  find := findFile
  read := readFile
  readInput := readInput
  append := append
  write path text := attemptAt path (IO.FS.writeFile path text)
  makeDirectory path := attemptAt path (IO.FS.createDir path)
  isDirectory := isDirectory
  printError := IO.eprint
  now := now

end LocalSystem

end FleetQuery

/-- Run the program with the arguments of the call. -/
def main (args : List String) : IO UInt32 := do
  let r ← FleetQuery.CommandLine.run FleetQuery.LocalSystem.host args
  IO.print r.output
  IO.eprint r.report
  return UInt32.ofNat r.code
