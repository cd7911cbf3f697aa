import FleetQuery.Text.Printable

/-!
# Quoted text

Patterns and paths are shown between double quotes.  Double quotes and backslashes are escaped,
the common control characters have their short forms, and every character that is not printable
or that extends the one before it is spelled by its code point.  Apostrophes stay as they are.
-/

namespace FleetQuery

/-- Lower-case hexadecimal digits without padding. -/
def hexadecimal (n : Nat) : List Char := Nat.toDigits 16 n

/-- A character spelled by its code point. -/
def codePointEscape (c : Char) : List Char :=
  ['\\', 'u', '\x7b'] ++ hexadecimal c.toNat ++ ['\x7d']

/-- One character of quoted text. -/
def quotedChar (c : Char) : List Char :=
  if c == '\x00' then ['\\', '0']
  else if c == '\t' then ['\\', 't']
  else if c == '\r' then ['\\', 'r']
  else if c == '\n' then ['\\', 'n']
  else if c == '\\' || c == '"' then ['\\', c]
  else if isGraphemeExtend c || !isPrintable c then codePointEscape c
  else [c]

/-- A text between double quotes, each character escaped as `quotedChar` says. -/
def quotedText (s : String) : String :=
  String.ofList ('"' :: s.toList.flatMap quotedChar ++ ['"'])

end FleetQuery
