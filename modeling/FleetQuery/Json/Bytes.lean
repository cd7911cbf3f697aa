/-!
# JSON texts in bytes

A JSON text comes as bytes, and the encoding of a string matters only if the string is wanted.
Bytes that encode no character do no harm in a string that is skipped, they refuse a string that is
decoded when it ends, and anywhere else they are no JSON.  `Json.textOf` makes a text of the bytes
that the readers treat in the same way: only a string that is skipped may hold the escape of half a
pair of units.
-/

namespace FleetQuery

namespace Json

/-- The characters in bytes, from an index on and at most `n`; a byte that belongs to no character
stands for itself. -/
def characters (bytes : ByteArray) : Nat → Nat → List (Option Char)
  | 0, _ => []
  | n + 1, i =>
    if i < bytes.size then
      match bytes.utf8DecodeChar? i with
      | some c => some c :: characters bytes n (i + c.utf8Size)
      | none => none :: characters bytes n (i + 1)
    else []

/-- Where a character of a JSON text stands. -/
inductive Site
  /-- Outside of all strings. -/
  | outside
  /-- In a string. -/
  | inside
  /-- Behind the backslash of an escape. -/
  | letter
  /-- Among the digits of an escape, of which some are still due. -/
  | digits (due : Nat)
  deriving DecidableEq, Repr

/-- Spell out characters.  A string is `spoilt` if it holds a byte that belongs to no character; it
ends with two halves of pairs then.  In an escape, such a byte is one more wrong character. -/
def spell : Site → (spoilt : Bool) → List (Option Char) → List Char
  | _, _, [] => []
  | .outside, _, some '"' :: cs => '"' :: spell .inside false cs
  | .outside, _, c :: cs => c.getD '\ufffd' :: spell .outside false cs
  | .inside, spoilt, some '"' :: cs =>
    (if spoilt then "\\udc00\\udc00".toList else []) ++ '"' :: spell .outside false cs
  | .inside, spoilt, some '\\' :: cs => '\\' :: spell .letter spoilt cs
  | .inside, spoilt, some c :: cs => c :: spell .inside spoilt cs
  | .inside, _, none :: cs => '\ufffd' :: spell .inside true cs
  | .letter, spoilt, some 'u' :: cs => 'u' :: spell (.digits 4) spoilt cs
  | .letter, spoilt, c :: cs => c.getD 'x' :: spell .inside spoilt cs
  | .digits due, spoilt, c :: cs =>
    c.getD 'x' :: spell (if due ≤ 1 then .inside else .digits (due - 1)) spoilt cs

/-- The text that some bytes are read as. -/
def textOf (bytes : ByteArray) : String :=
  match String.fromUTF8? bytes with
  | some text => text
  | none => String.ofList (spell .outside false (characters bytes bytes.size 0))

end Json

end FleetQuery
