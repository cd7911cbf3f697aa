/-!
# Faults with a place

A fault found in a text is reported with the byte offset of the offending place.  `Located`
joins the fault, the offset and the whole text; `Located.caret` shows the text with a caret
below the place.  Offsets count UTF-8 bytes, columns count characters.
-/

namespace FleetQuery

/-- The number of UTF-8 bytes of a text. -/
def utf8Length : List Char → Nat
  | [] => 0
  | c :: s => c.utf8Size + utf8Length s

/-- The number of characters before a byte offset, if the offset is a character boundary. -/
def charactersBefore? : Nat → List Char → Option Nat
  | 0, _ => some 0
  | _ + 1, [] => none
  | n + 1, c :: s =>
    if c.utf8Size ≤ n + 1 then (charactersBefore? (n + 1 - c.utf8Size) s).map (· + 1) else none

/-- The caret line of a text: as many spaces as there are characters before the offset (or
bytes, where the offset is inside a character), then `^`. -/
def caretLine (position : Nat) (input : String) : String :=
  String.ofList (List.replicate ((charactersBefore? position input.toList).getD position) ' ')
    ++ "^"

/-- A fault of kind `κ` at a byte offset of a text. -/
structure Located (κ : Type) where
  /-- What is wrong. -/
  fault : κ
  /-- The byte offset of the offending place. -/
  position : Nat
  /-- The whole text. -/
  input : String
  deriving DecidableEq, Repr

namespace Located

variable {κ : Type}

/-- Place a fault in a text; an offset past the end is moved to the end. -/
def place (fault : κ) (position : Nat) (input : String) : Located κ :=
  ⟨fault, min position (utf8Length input.toList), input⟩

/-- Place a fault where a text still has `rest` to be read. -/
def before (fault : κ) (rest : List Char) (input : String) : Located κ :=
  place fault (utf8Length input.toList - utf8Length rest) input

/-- The text with a caret below the offending place. -/
def caret (e : Located κ) : String := e.input ++ "\n" ++ caretLine e.position e.input

end Located

end FleetQuery
