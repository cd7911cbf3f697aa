/-!
# Faults of the file system

Why an operation on a file fails, with the wording of the operating system.  Files hold bytes, which
are a text only if they encode one.
-/

namespace FleetQuery

/-- Why an operation on a file fails. -/
inductive FileFault
  /-- Nothing is there. -/
  | notFound
  /-- Something is there already. -/
  | occupied
  /-- A directory is needed, and something else is there. -/
  | notDirectory
  /-- A file is needed, and a directory is there. -/
  | isDirectory
  /-- A name is longer than names may be. -/
  | nameTooLong
  /-- A path holds a null character. -/
  | nullInPath
  /-- The bytes of a file are no text. -/
  | notText
  /-- Another fault, in the words of the operating system. -/
  | stated (text : String)
  deriving DecidableEq, Repr

/-- The wording of a fault. -/
def FileFault.message : FileFault → String
  | notFound => "No such file or directory (os error 2)"
  | occupied => "File exists (os error 17)"
  | notDirectory => "Not a directory (os error 20)"
  | isDirectory => "Is a directory (os error 21)"
  | nameTooLong => "File name too long (os error 36)"
  | nullInPath => "file name contained an unexpected NUL byte"
  | notText => "stream did not contain valid UTF-8"
  | stated text => text

/-- The text that some bytes encode. -/
def FileFault.decode (bytes : ByteArray) : Except FileFault String :=
  match String.fromUTF8? bytes with
  | some text => .ok text
  | none => .error .notText

end FleetQuery
