import FleetQuery.Files.Fault
import FleetQuery.Text.Located

/-!
# File trees

Files and directories as a value, with the operations that the program needs: reading, writing,
and making directories.  Paths are walked part by part, so `..` leads out of the directory that
has been reached, and a file on the way is a fault.
-/

namespace FleetQuery

/-- A file or a directory. -/
inductive FileNode
  /-- A file with its text. -/
  | file (text : String)
  /-- A directory with what it holds, by name. -/
  | directory (entries : List (String × FileNode))
  deriving Repr

/-- The greatest length of a name, in bytes. -/
def maxNameLength : Nat := 255

/-- The greatest length of a path, in bytes. -/
def maxPathLength : Nat := 4095

namespace FilePath

/-- The names in a path; empty names between slashes do not count. -/
def parts (path : String) : List String := (path.splitOn "/").filter (· != "")

/-- The path starts at the root. -/
def isAbsolute (path : String) : Bool := path.toList.head? == some '/'

/-- The path ends in a slash, so it means a directory. -/
def endsInSlash (path : String) : Bool := path.toList.getLast? == some '/'

/-- The names in a path that are not the current directory. -/
def plainParts (path : String) : List String := (parts path).filter (· != ".")

/-- The starts of a path that end with one of its names, shortest first.  They keep all that the
path has between its names; only at its front does the current directory count as a name. -/
def starts (path : String) : List String :=
  let pieces := path.splitOn "/"
  pieces.zipIdx.filterMap fun (piece, i) =>
    if piece == "" || (piece == "." && i != 0) then none
    else some ("/".intercalate (pieces.take (i + 1)))

/-- The directories around what a path leads to, outermost first. -/
def enclosing (path : String) : List String := (starts path).dropLast

/-- The path stands for the standard input. -/
def isStandardInput (path : String) : Bool :=
  !isAbsolute path && (parts path).head? == some "-" && plainParts path == ["-"]

end FilePath

/-- A tree of files, and the directory that relative paths start from. -/
structure FileTree where
  /-- The root directory. -/
  root : FileNode := .directory []
  /-- The path of the current directory, from the root. -/
  current : List String := []
  deriving Repr

/-- Where a path leads. -/
inductive Spot
  /-- Something is there. -/
  | taken (node : FileNode)
  /-- Nothing is there, but the directory for it is. -/
  | vacant
  deriving Repr

namespace FileNode

/-- Put a node under a name, in the place of the one that is there. -/
def putEntry (entries : List (String × FileNode)) (name : String) (node : FileNode) :
    List (String × FileNode) :=
  if (entries.lookup name).isSome then
    entries.map fun e => if e.1 == name then (name, node) else e
  else entries ++ [(name, node)]

/-- Put a node at the end of a chain of names; where there is no directory for it, nothing
changes. -/
def put (node : FileNode) (new : FileNode) : List String → FileNode
  | [] => new
  | name :: names =>
    match node with
    | file text => file text
    | directory entries =>
      match names with
      | [] => directory (putEntry entries name new)
      | _ =>
        match entries.lookup name with
        | none => directory entries
        | some inner => directory (putEntry entries name (inner.put new names))

end FileNode

namespace FileTree

/-- Walk on from a node: the chain of names of the place that is reached, and what is there.  The
trail leads back to the root: the directories that have been left downwards, last one first, each
after the name that was taken there. -/
def walk (trail : List (String × FileNode)) (node : FileNode) :
    List String → Except FileFault (List String × Spot)
  | [] => .ok ((trail.map (·.1)).reverse, .taken node)
  | name :: names =>
    match node with
    | .file _ => .error .notDirectory
    | .directory entries =>
      if name == "." then walk trail node names
      else if name == ".." then
        match trail with
        | [] => walk [] node names
        | (_, outer) :: trail => walk trail outer names
      else if maxNameLength < utf8Length name.toList then .error .nameTooLong
      else
        match entries.lookup name with
        | some inner => walk ((name, node) :: trail) inner names
        | none =>
          if names.isEmpty then .ok ((name :: trail.map (·.1)).reverse, .vacant)
          else .error .notFound

/-- Where the first names of a path lead, all but the last `dropped` ones. -/
def reach (t : FileTree) (path : String) (dropped : Nat) :
    Except FileFault (List String × Spot) :=
  if path.toList.contains '\x00' then .error .nullInPath
  else if maxPathLength < utf8Length path.toList then .error .nameTooLong
  else if path.isEmpty then .error .notFound
  else
    let names := FilePath.parts path
    let start := if FilePath.isAbsolute path then [] else t.current
    walk [] t.root (start ++ names.take (names.length - dropped))

/-- Where a path leads: the chain of names of the place, and what is there.  A file cannot be
reached with a slash after its name. -/
def spot (t : FileTree) (path : String) : Except FileFault (List String × Spot) :=
  match t.reach path 0 with
  | .ok (place, .taken (.file text)) =>
    if FilePath.endsInSlash path then .error .notDirectory
    else .ok (place, .taken (.file text))
  | result => result

/-- Something stands under a path. -/
def exists? (t : FileTree) (path : String) : Bool :=
  match t.spot path with
  | .ok (_, .taken _) => true
  | _ => false

/-- A directory stands under a path. -/
def isDirectory (t : FileTree) (path : String) : Bool :=
  match t.spot path with
  | .ok (_, .taken (.directory _)) => true
  | _ => false

/-- The text of the file under a path. -/
def read (t : FileTree) (path : String) : Except FileFault String :=
  match t.spot path with
  | .error e => .error e
  | .ok (_, .vacant) => .error .notFound
  | .ok (_, .taken (.directory _)) => .error .isDirectory
  | .ok (_, .taken (.file text)) => .ok text

/-- Why no file can be written under a path that ends in a slash: it means a directory, whatever
stands there, if its last name has a directory to stand in. -/
def slashFault (t : FileTree) (path : String) : FileFault :=
  match t.reach path 1 with
  | .error e => e
  | .ok (_, .vacant) => .notFound
  | .ok (_, .taken (.file _)) => .notDirectory
  | .ok (_, .taken (.directory _)) => .isDirectory

/-- Write the file under a path; `text` gives its new text from its old one, if there is one. -/
def update (t : FileTree) (path : String) (text : Option String → String) :
    Except FileFault FileTree :=
  if FilePath.endsInSlash path then .error (t.slashFault path)
  else match t.reach path 0 with
  | .error e => .error e
  | .ok (_, .taken (.directory _)) => .error .isDirectory
  | .ok (place, .taken (.file old)) =>
    .ok { t with root := t.root.put (.file (text (some old))) place }
  | .ok (place, .vacant) => .ok { t with root := t.root.put (.file (text none)) place }

/-- Write a text to the file under a path. -/
def write (t : FileTree) (path text : String) : Except FileFault FileTree :=
  t.update path fun _ => text

/-- Add a text to the end of the file under a path; a file that is not there is made. -/
def append (t : FileTree) (path text : String) : Except FileFault FileTree :=
  t.update path fun old? => old?.getD "" ++ text

/-- Make a directory under a path. -/
def makeDirectory (t : FileTree) (path : String) : Except FileFault FileTree :=
  match t.spot path with
  | .error e => .error e
  | .ok (_, .taken _) => .error .occupied
  | .ok (place, .vacant) => .ok { t with root := t.root.put (.directory []) place }

end FileTree

end FleetQuery
