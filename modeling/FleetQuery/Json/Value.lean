/-!
# JSON values

The values that records are written as, and their compact text.
-/

namespace FleetQuery

/-- A JSON value with integers for numbers. -/
inductive Json
  /-- The null value. -/
  | null
  /-- A truth value. -/
  | flag (b : Bool)
  /-- An integer. -/
  | integer (n : Int)
  /-- A text. -/
  | text (s : String)
  /-- An array. -/
  | list (items : List Json)
  /-- An object, with its members in order. -/
  | object (members : List (String × Json))
  deriving Repr

namespace Json

/-- A hexadecimal digit in lower case. -/
def hexDigit (n : Nat) : Char := if n < 10 then Char.ofNat (48 + n) else Char.ofNat (87 + n)

/-- One character of a text: quotes, backslashes and control characters are escaped. -/
def escaped (c : Char) : List Char :=
  if c == '"' then ['\\', '"']
  else if c == '\\' then ['\\', '\\']
  else if c == '\n' then ['\\', 'n']
  else if c == '\r' then ['\\', 'r']
  else if c == '\t' then ['\\', 't']
  else if c == '\x08' then ['\\', 'b']
  else if c == '\x0c' then ['\\', 'f']
  else if c.toNat < 0x20 then
    ['\\', 'u', '0', '0', hexDigit (c.toNat / 16), hexDigit (c.toNat % 16)]
  else [c]

/-- A text between double quotes. -/
def renderText (s : String) : List Char := '"' :: s.toList.flatMap escaped ++ ['"']

/-- An integer in decimal. -/
def renderInteger (n : Int) : List Char :=
  if n < 0 then '-' :: Nat.toDigits 10 n.natAbs else Nat.toDigits 10 n.natAbs

mutual

/-- The compact text of a value. -/
def render : Json → List Char
  | null => ['n', 'u', 'l', 'l']
  | flag true => ['t', 'r', 'u', 'e']
  | flag false => ['f', 'a', 'l', 's', 'e']
  | integer n => renderInteger n
  | text s => renderText s
  | list items => '[' :: renderItems items ++ [']']
  | object members => '\x7b' :: renderMembers members ++ ['\x7d']

/-- The items of an array, with commas between them. -/
def renderItems : List Json → List Char
  | [] => []
  | [v] => v.render
  | v :: vs => v.render ++ ',' :: renderItems vs

/-- The members of an object, with commas between them. -/
def renderMembers : List (String × Json) → List Char
  | [] => []
  | [(k, v)] => renderText k ++ ':' :: v.render
  | (k, v) :: ms => renderText k ++ ':' :: v.render ++ ',' :: renderMembers ms

end

end Json

end FleetQuery
