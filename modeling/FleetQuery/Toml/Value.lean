/-!
# Values of TOML documents

A document is a table of values under keys.  Tables remember how they came about, because that
decides whether later lines may add to them.  Numbers and truth values are checked but not
kept, since nothing reads them.
-/

namespace FleetQuery

namespace Toml

/-- How a table came about. -/
inductive Origin
  /-- Its own header stands in the document, or it is the document. -/
  | header
  /-- The header of a table inside it stands in the document. -/
  | implied
  /-- A dotted key goes through it. -/
  | dotted
  /-- It is written between braces. -/
  | braces
  deriving DecidableEq, Repr

/-- The table may still be added to by dotted keys, and a table that is only implied may still be
given its header. -/
def Origin.isOpen : Origin → Bool
  | implied => true
  | dotted => true
  | _ => false

/-- A value. -/
inductive Value
  /-- A text. -/
  | text (s : String)
  /-- A number or a truth value. -/
  | scalar
  /-- A date, a time, or both. -/
  | moment
  /-- An array. -/
  | array (items : List Value)
  /-- A table. -/
  | table (origin : Origin) (entries : List (String × Value))
  /-- The tables that stand under one repeated header. -/
  | tables (items : List (List (String × Value)))
  deriving Repr

/-- The values of a table under their keys. -/
abbrev Entries := List (String × Value)

namespace Entries

/-- Put a value under a key, in the place of the value that is there, or at the end. -/
def put (es : Entries) (key : String) (v : Value) : Entries :=
  match es with
  | [] => [(key, v)]
  | (k, w) :: es => if k == key then (k, v) :: es else (k, w) :: put es key v

/-- Take a key out. -/
def drop (es : Entries) (key : String) : Entries := es.filter (·.1 != key)

end Entries

/-- Change the table at the end of a path, and give back what the change gives.  Tables that are
missing on the way are made; a value that is no table, a table in braces, and, for the path of a
dotted key, a table with a header stop the way.  Under a repeated header the way goes into the
last table. -/
def changeAt? {α : Type} (isDotted : Bool) (change : Origin → Entries → Option (α × Entries)) :
    List String → Origin → Entries → Option (α × Entries)
  | [], origin, es => change origin es
  | key :: path, _, es =>
    match es.lookup key with
    | none => do
      let origin := if isDotted then Origin.dotted else .implied
      let (a, inner) ← changeAt? isDotted change path origin []
      some (a, es.put key (.table origin inner))
    | some (.table origin inner) =>
      if origin == .braces || (isDotted && !origin.isOpen) then none
      else do
        let (a, inner) ← changeAt? isDotted change path origin inner
        some (a, es.put key (.table origin inner))
    | some (.tables items) =>
      match items.getLast? with
      | none => none
      | some last => do
        let (a, last) ← changeAt? isDotted change path .header last
        some (a, es.put key (.tables (items.dropLast ++ [last])))
    | some _ => none

/-- Set the value of a key, which may be dotted.  No value may be set twice, and a dotted key may
not end in a table that came about otherwise. -/
def assign? (origin : Origin) (es : Entries) (path : List String) (key : String) (v : Value) :
    Option Entries :=
  (changeAt? true
    (fun found inner =>
      if (found == .dotted) == path.isEmpty || (inner.lookup key).isSome then none
      else some ((), inner ++ [(key, v)]))
    path origin es).map (·.2)

end Toml

end FleetQuery
