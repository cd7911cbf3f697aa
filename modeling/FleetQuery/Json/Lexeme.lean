import FleetQuery.Json.Fault
import FleetQuery.Text.Blank
import FleetQuery.Text.Located
import FleetQuery.Text.Magnitude

/-!
# Lexemes of JSON

Words, numbers and strings, read from the front of a text.  A string is either decoded
(`decodeString`), and then its escapes have to denote characters, or only skipped
(`skipString`), and then they only have to be well formed.  A number that the text breaks off is
blamed on the end of the text where its value is wanted, and on the number where it is skipped.
-/

namespace FleetQuery

namespace Json

/-- What a reader of JSON gives, or the first problem it meets. -/
abbrev Outcome := Except JsonFault

/-- The characters of a word that has begun. -/
def word : List Char → List Char → Outcome (List Char)
  | [], s => .ok s
  | _ :: _, [] => .error .truncated
  | c :: w, d :: s => if c == d then word w s else .error .malformed

/-! ### Numbers -/

/-- The parts of a number. -/
structure NumberParts where
  /-- A minus sign stands in front. -/
  negative : Bool
  /-- The digits before the point. -/
  whole : List Char
  /-- The digits after the point, if there is one. -/
  fraction? : Option (List Char)
  /-- The exponent, if there is one: its sign and its digits. -/
  exponent? : Option (Bool × List Char)
  deriving DecidableEq, Repr

/-- Digits at the front of a text, at least one. -/
def someDigits (atEnd : JsonFault) : List Char → Outcome (List Char × List Char)
  | [] => .error atEnd
  | c :: s =>
    if isDigit c then .ok (c :: s.takeWhile isDigit, s.dropWhile isDigit) else .error .malformed

/-- The digits before the point: a zero that no digit follows, or digits that start with none. -/
def wholeDigits (atEnd : JsonFault) (s : List Char) : Outcome (List Char × List Char) := do
  let (digits, rest) ← someDigits atEnd s
  if digits.head? == some '0' && digits.length != 1 then .error .malformed
  else .ok (digits, rest)

/-- The fraction at the front of a text, if there is one. -/
def fractionDigits (atEnd : JsonFault) : List Char → Outcome (Option (List Char) × List Char)
  | '.' :: s => do
    let (digits, rest) ← someDigits atEnd s
    .ok (some digits, rest)
  | s => .ok (none, s)

/-- The digits of an exponent after its letter, with their sign. -/
def signedDigits (atEnd : JsonFault) : List Char → Outcome ((Bool × List Char) × List Char)
  | '-' :: s => do
    let (digits, rest) ← someDigits atEnd s
    .ok ((true, digits), rest)
  | '+' :: s => do
    let (digits, rest) ← someDigits atEnd s
    .ok ((false, digits), rest)
  | s => do
    let (digits, rest) ← someDigits atEnd s
    .ok ((false, digits), rest)

/-- The exponent at the front of a text, if there is one. -/
def exponentDigits (atEnd : JsonFault) :
    List Char → Outcome (Option (Bool × List Char) × List Char)
  | 'e' :: s => do
    let (e, rest) ← signedDigits atEnd s
    .ok (some e, rest)
  | 'E' :: s => do
    let (e, rest) ← signedDigits atEnd s
    .ok (some e, rest)
  | s => .ok (none, s)

/-- The number after its sign. -/
def unsignedNumber (atEnd : JsonFault) (negative : Bool) (s : List Char) :
    Outcome (NumberParts × List Char) := do
  let (whole, s) ← wholeDigits atEnd s
  let (fraction?, s) ← fractionDigits atEnd s
  let (exponent?, s) ← exponentDigits atEnd s
  .ok (⟨negative, whole, fraction?, exponent?⟩, s)

/-- The number at the front of a text. -/
def number (atEnd : JsonFault) : List Char → Outcome (NumberParts × List Char)
  | '-' :: s => unsignedNumber atEnd true s
  | s => unsignedNumber atEnd false s

namespace NumberParts

/-- The power of ten that the digits are multiplied with. -/
def scale (n : NumberParts) : Int :=
  let exponent : Int := match n.exponent? with
    | some (true, digits) => -(digitsValue digits : Int)
    | some (false, digits) => digitsValue digits
    | none => 0
  exponent - (n.fraction?.getD []).length

/-- The number is too great to be a double. -/
def isOutOfRange (n : NumberParts) : Bool :=
  overflowsDouble (n.whole ++ n.fraction?.getD []) n.scale

/-- The signed 64-bit integer that a number is written as: no point, no exponent and no negative
zero. -/
def integer? (n : NumberParts) : Option Int :=
  if n.fraction?.isSome || n.exponent?.isSome then none
  else
    let value := digitsValue n.whole
    if n.negative && value == 0 then none
    else
      let value : Int := if n.negative then -(value : Int) else value
      if isInteger64 value then some value else none

end NumberParts

/-! ### Strings -/

/-- The value of a hexadecimal digit. -/
def hexValue? (c : Char) : Option Nat :=
  if isDigit c then some (c.toNat - 48)
  else if 'a' ≤ c && c ≤ 'f' then some (c.toNat - 87)
  else if 'A' ≤ c && c ≤ 'F' then some (c.toNat - 55)
  else none

/-- Four hexadecimal digits, a unit of UTF-16.  A text of fewer than four bytes ends too early,
whatever it holds. -/
def hexUnit (s : List Char) : Outcome (Nat × List Char) :=
  if utf8Length (s.take 4) < 4 then .error .truncated
  else match s.take 4 |>.mapM hexValue? with
    | some [a, b, c, d] => .ok (((a * 16 + b) * 16 + c) * 16 + d, s.drop 4)
    | _ => .error .malformed

/-- A unit of UTF-16 that starts a pair. -/
def isHighSurrogate (n : Nat) : Bool := 0xD800 ≤ n && n ≤ 0xDBFF

/-- A unit of UTF-16 that ends a pair. -/
def isLowSurrogate (n : Nat) : Bool := 0xDC00 ≤ n && n ≤ 0xDFFF

/-- The second half of a pair of units, each written as an escape. -/
def lowHalf (high : Nat) : List Char → Outcome (Char × List Char)
  | [] => .error .truncated
  | ['\\'] => .error .truncated
  | '\\' :: 'u' :: s => do
    let (low, s) ← hexUnit s
    if isLowSurrogate low then
      .ok (Char.ofNat (0x10000 + (high - 0xD800) * 0x400 + (low - 0xDC00)), s)
    else .error .malformed
  | _ => .error .malformed

/-- The characters of the escapes of one letter. -/
def shortEscape? (c : Char) : Option Char :=
  if c == '"' || c == '\\' || c == '/' then some c
  else if c == 'b' then some '\x08'
  else if c == 'f' then some '\x0c'
  else if c == 'n' then some '\n'
  else if c == 'r' then some '\r'
  else if c == 't' then some '\t'
  else none

/-- The character that an escape denotes, after its backslash. -/
def escape : List Char → Outcome (Char × List Char)
  | [] => .error .truncated
  | c :: s =>
    if c == 'u' then do
      let (unit, s) ← hexUnit s
      if isLowSurrogate unit then .error .malformed
      else if isHighSurrogate unit then lowHalf unit s
      else .ok (Char.ofNat unit, s)
    else match shortEscape? c with
      | some c => .ok (c, s)
      | none => .error .malformed

/-- The characters of a string after its opening quote.  Every step takes at least one character,
so the length of the text bounds the steps. -/
def decodeSteps : Nat → List Char → Outcome (List Char × List Char)
  | 0, _ => .error .truncated
  | _ + 1, [] => .error .truncated
  | n + 1, c :: s =>
    if c == '"' then .ok ([], s)
    else if c == '\\' then do
      let (c, s) ← escape s
      let (cs, s) ← decodeSteps n s
      .ok (c :: cs, s)
    else if c.toNat < 0x20 then .error .malformed
    else do
      let (cs, s) ← decodeSteps n s
      .ok (c :: cs, s)

/-- The string after its opening quote. -/
def decodeString (s : List Char) : Outcome (String × List Char) := do
  let (cs, rest) ← decodeSteps s.length s
  .ok (String.ofList cs, rest)

/-- Skip an escape, after its backslash. -/
def skipEscape : List Char → Outcome (List Char)
  | [] => .error .truncated
  | c :: s =>
    if c == 'u' then (hexUnit s).map (·.2)
    else if (shortEscape? c).isSome then .ok s
    else .error .malformed

/-- Skip the characters of a string after its opening quote. -/
def skipSteps : Nat → List Char → Outcome (List Char)
  | 0, _ => .error .truncated
  | _ + 1, [] => .error .truncated
  | n + 1, c :: s =>
    if c == '"' then .ok s
    else if c == '\\' then
      match skipEscape s with
      | .error e => .error e
      | .ok s => skipSteps n s
    else if c.toNat < 0x20 then .error .malformed
    else skipSteps n s

/-- Skip a string after its opening quote. -/
def skipString (s : List Char) : Outcome (List Char) := skipSteps s.length s

end Json

end FleetQuery
