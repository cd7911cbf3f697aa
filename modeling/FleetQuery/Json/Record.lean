import FleetQuery.Json.Reader
import FleetQuery.Json.Value
import FleetQuery.Time.Stamp

/-!
# Records in JSON

A `Codec` reads values of a type and writes them.  A record is described by a `Layout`, the list
of its fields in order.  It is written as an object with all its keys, and read from an object or
from an array of its values in order.  Unknown keys are passed over, a key that repeats is a
fault, and a field that is missing takes its default or is a fault if it has none.
-/

namespace FleetQuery

namespace Json

/-- How the values of a type are read and written. -/
structure Codec (α : Type) where
  /-- Read a value. -/
  read : Reader α
  /-- Write a value. -/
  write : α → Json

namespace Codec

/-- Texts. -/
def text : Codec String := ⟨readText, .text⟩

/-- Truth values. -/
def flag : Codec Bool := ⟨readFlag, .flag⟩

/-- Signed 64-bit integers. -/
def integer : Codec Int := ⟨readInteger, .integer⟩

/-- Instants, as time stamps. -/
def instant : Codec Instant where
  read := do
    let stamp ← readText
    match Instant.read? stamp.toList with
    | some t => pure t
    | none => Reader.refuse .misshapen
  write t := .text (String.ofList t.write)

/-- Values that may be missing; a missing one is null. -/
def optional {α : Type} (c : Codec α) : Codec (Option α) where
  read := readOptional c.read
  write
    | some a => c.write a
    | none => .null

/-- Lists, as arrays. -/
def list {α : Type} (c : Codec α) : Codec (List α) where
  read := readArray c.read
  write as := .list (as.map c.write)

end Codec

/-- A field of a record. -/
structure Slot (α : Type) where
  /-- Its key. -/
  key : String
  /-- How its values are read and written. -/
  codec : Codec α
  /-- Its value where the key is missing; without one the key has to be there. -/
  default? : Option α

/-- The fields of a record, in order, with the types of their values. -/
inductive Layout : List Type → Type 1
  /-- No field. -/
  | nil : Layout []
  /-- A field and the fields after it. -/
  | cons {α : Type} {αs : List Type} (slot : Slot α) (rest : Layout αs) : Layout (α :: αs)

/-- The values of the fields of a record. -/
def Row : List Type → Type
  | [] => Unit
  | α :: αs => α × Row αs

/-- The values of those fields that have been read. -/
def Draft : List Type → Type
  | [] => Unit
  | α :: αs => Option α × Draft αs

namespace Layout

/-- Nothing has been read. -/
def blank : {αs : List Type} → Layout αs → Draft αs
  | _, nil => ()
  | _, cons _ rest => (none, rest.blank)

/-- Read the value of a key into a draft; an unknown key is passed over, and one that was read
already is a fault before its value. -/
def step : {αs : List Type} → Layout αs → Draft αs → String → Reader (Draft αs)
  | _, nil, draft, _ => do
    readColon
    passValue
    pure draft
  | _, cons slot rest, (value?, draft), key =>
    if slot.key == key then
      match value? with
      | some _ => Reader.refuse .misshapen
      | none => do
        readColon
        let a ← slot.codec.read
        pure (some a, draft)
    else do
      let draft ← rest.step draft key
      pure (value?, draft)

/-- Fill what is missing with the defaults. -/
def finish : {αs : List Type} → Layout αs → Draft αs → Except JsonFault (Row αs)
  | _, nil, _ => .ok ()
  | _, cons slot rest, (value?, draft) =>
    match value?.or slot.default? with
    | none => .error .misshapen
    | some a => do
      let row ← rest.finish draft
      .ok (a, row)

/-- Read the fields from the items of an array; items that are missing at the end take the
defaults. -/
def readInOrder : {αs : List Type} → Layout αs → Bool → Reader (Row αs)
  | _, nil, _ => pure ()
  | _, cons slot rest, first => do
    let here ← atItem first
    let a ← if here then slot.codec.read else
      match slot.default? with
      | some a => pure a
      | none => Reader.refuse .misshapen
    let row ← rest.readInOrder (first && !here)
    pure (a, row)

/-- Read a record: an object, or an array of its values in order. -/
def read {αs : List Type} (l : Layout αs) : Reader (Row αs) := fun s =>
  match skipBlanks s with
  | '[' :: s =>
    (do
      let row ← l.readInOrder true
      closeArray
      pure row : Reader (Row αs)) s
  | '\x7b' :: s =>
    (do
      let draft ← readObjectBody l.step l.blank
      match l.finish draft with
      | .error e => Reader.refuse e
      | .ok row => pure row : Reader (Row αs)) s
  | s => .error (misfit s)

/-- The members that a record is written as. -/
def write : {αs : List Type} → Layout αs → Row αs → List (String × Json)
  | _, nil, _ => []
  | _, cons slot rest, (a, row) => (slot.key, slot.codec.write a) :: rest.write row

/-- The codec of a record type whose values are the rows of a layout. -/
def codec {αs : List Type} {ρ : Type} (l : Layout αs) (ofRow : Row αs → ρ) (toRow : ρ → Row αs) :
    Codec ρ where
  read := do
    let row ← l.read
    pure (ofRow row)
  write r := .object (l.write (toRow r))

end Layout

end Json

end FleetQuery
