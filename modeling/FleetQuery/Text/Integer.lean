/-!
# Integers in text

Signed 64-bit integers in decimal: an optional sign and one or more ASCII digits, with any
number of leading zeros.  `readInteger?` refuses every other text and every value out of range.
`padded` writes a natural number with at least a given number of digits.
-/

namespace FleetQuery

/-- The greatest signed 64-bit integer. -/
def maxInteger : Nat := 9223372036854775807

/-- The range of signed 64-bit integers, which has one more number below zero than above. -/
def isInteger64 (n : Int) : Bool := -(maxInteger : Int) - 1 ≤ n && n ≤ (maxInteger : Int)

/-- An ASCII digit. -/
def isDigit (c : Char) : Bool := '0' ≤ c && c ≤ '9'

/-- The value of a run of ASCII digits, most significant first. -/
def digitsValue (ds : List Char) : Nat :=
  ds.foldl (fun n d => 10 * n + (d.toNat - '0'.toNat)) 0

/-- The value of a text that is one or more digits. -/
def readNatural? (s : List Char) : Option Nat :=
  if !s.isEmpty && s.all isDigit then some (digitsValue s) else none

/-- The 64-bit integer that a text denotes. -/
def readInteger? (s : List Char) : Option Int := do
  let n : Int ← match s with
    | '-' :: ds => (readNatural? ds).map fun n => -(n : Int)
    | '+' :: ds => (readNatural? ds).map Int.ofNat
    | ds => (readNatural? ds).map Int.ofNat
  if isInteger64 n then some n else none

/-- A natural number in decimal, with leading zeros up to a width. -/
def padded (width n : Nat) : List Char :=
  let ds := Nat.toDigits 10 n
  List.replicate (width - ds.length) '0' ++ ds

end FleetQuery
