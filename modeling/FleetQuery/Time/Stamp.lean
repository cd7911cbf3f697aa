import FleetQuery.Text.Blank
import FleetQuery.Text.Integer
import FleetQuery.Time.Instant

/-!
# Time stamps

Instants in text.  `Instant.write` gives the date and time in Coordinated Universal Time with the
fewest of 0, 3, 6 or 9 digits of fraction that are exact, and `Z`.  `Instant.read?` accepts more:
one or two digits where two are due, white space around the numbers and signs of the date and of
the time, a blank for the `T`, any number of digits of fraction, and an offset from universal
time, which is taken off.  A 60th second is a leap second in any minute.
-/

namespace FleetQuery

namespace Stamp

/-- A number of at most `most` digits at the front of a text. -/
def number? (most : Nat) (s : List Char) : Option (Nat × List Char) :=
  let digits := (s.take most).takeWhile isDigit
  if digits.isEmpty then none else some (digitsValue digits, s.drop digits.length)

/-- A number after white space. -/
def spacedNumber? (most : Nat) (s : List Char) : Option (Nat × List Char) :=
  number? most (trimLeft s)

/-- A year after white space: four digits at most, or any number after a sign. -/
def year? (s : List Char) : Option (Int × List Char) :=
  match trimLeft s with
  | '-' :: s => (number? s.length s).map fun (n, rest) => (-(n : Int), rest)
  | '+' :: s => (number? s.length s).map fun (n, rest) => ((n : Int), rest)
  | s => (number? 4 s).map fun (n, rest) => ((n : Int), rest)

/-- A separator after white space. -/
def separator? (c : Char) (s : List Char) : Option (List Char) :=
  match trimLeft s with
  | c' :: rest => if c' == c then some rest else none
  | [] => none

/-- A day: year, month and day of the month, with hyphens between them. -/
def date? (s : List Char) : Option (Date × List Char) := do
  let (year, s) ← year? s
  let s ← separator? '-' s
  let (month, s) ← spacedNumber? 2 s
  let s ← separator? '-' s
  let (day, s) ← spacedNumber? 2 s
  let date ← Date.of? year month day
  pure (date, s)

/-- The letter or the blank between day and time. -/
def joint? : List Char → Option (List Char)
  | 'T' :: s => some s
  | 't' :: s => some s
  | ' ' :: s => some s
  | _ => none

/-- The nanoseconds of a fraction of a second: its digits are filled up with zeros to nine, and
digits past the ninth are dropped. -/
def fraction? : List Char → Option (Nat × List Char)
  | '.' :: s => do
    let digits := s.takeWhile isDigit
    if digits.isEmpty then none
    else
      some (digitsValue ((digits ++ List.replicate 9 '0').take 9), s.dropWhile isDigit)
  | s => some (0, s)

/-- A time of day: the second of the day and its nanoseconds. -/
def time? (s : List Char) : Option ((Nat × Nat) × List Char) := do
  let (hour, s) ← spacedNumber? 2 s
  let s ← separator? ':' s
  let (minute, s) ← spacedNumber? 2 s
  let s ← separator? ':' s
  let (second, s) ← spacedNumber? 2 s
  let (nanos, s) ← fraction? s
  if 24 ≤ hour || 60 ≤ minute || 61 ≤ second then none
  else
    let start := hour * 3600 + minute * 60
    if second == 60 then some ((start + 59, nanosPerSecond + nanos), s)
    else some ((start + second, nanos), s)

/-- Two digits at the front of a text. -/
def twoDigits? : List Char → Option (Nat × List Char)
  | a :: b :: s => if isDigit a && isDigit b then some (digitsValue [a, b], s) else none
  | _ => none

/-- The hours and minutes of an offset, in seconds; colons or white space may part them. -/
def offsetSize? (s : List Char) : Option (Nat × List Char) := do
  let (hours, s) ← twoDigits? s
  let (minutes, s) ← twoDigits? (s.dropWhile fun c => c == ':' || isWhiteSpace c)
  let seconds := hours * 3600 + minutes * 60
  if 60 ≤ minutes || secondsPerDay ≤ seconds then none else some (seconds, s)

/-- The name of universal time, in any case. -/
def universal? : List Char → Option (List Char)
  | 'Z' :: s => some s
  | 'z' :: s => some s
  | a :: b :: c :: s =>
    if [a, b, c].map Char.toLower == ['u', 't', 'c'] then some s else none
  | _ => none

/-- The offset from universal time, in seconds to the east. -/
def offset? (s : List Char) : Option (Int × List Char) :=
  match universal? s with
  | some rest => some (0, rest)
  | none =>
    match s with
    | '+' :: s => (offsetSize? s).map fun (n, rest) => ((n : Int), rest)
    | '-' :: s => (offsetSize? s).map fun (n, rest) => (-(n : Int), rest)
    | '−' :: s => (offsetSize? s).map fun (n, rest) => (-(n : Int), rest)
    | _ => none

/-- The instant at a local time, for a place with the given offset. -/
def instant? (date : Date) (second nanos : Nat) (offset : Int) : Option Instant :=
  let universal : Int := (second : Int) - offset
  if universal < 0 then do
    Instant.of? (← date.previous?) (universal + secondsPerDay).toNat nanos
  else if (secondsPerDay : Int) ≤ universal then do
    Instant.of? (← date.next?) (universal - secondsPerDay).toNat nanos
  else Instant.of? date universal.toNat nanos

end Stamp

namespace Instant

open Stamp

/-- The instant that a time stamp stands for. -/
def read? (s : List Char) : Option Instant := do
  let (date, s) ← date? s
  let s ← joint? s
  let ((second, nanos), s) ← time? s
  let (offset, s) ← offset? (trimLeft s)
  if (trimLeft s).isEmpty then instant? date second nanos offset else none

/-- A year in text: four digits, or a sign and at least four digits. -/
def writeYear (y : Int) : List Char :=
  if y < 0 then '-' :: padded 4 y.natAbs
  else if 9999 < y then '+' :: padded 4 y.natAbs
  else padded 4 y.natAbs

/-- A fraction of a second in text. -/
def writeFraction (nanos : Nat) : List Char :=
  if nanos == 0 then []
  else if nanos % 1000000 == 0 then '.' :: padded 3 (nanos / 1000000)
  else if nanos % 1000 == 0 then '.' :: padded 6 (nanos / 1000)
  else '.' :: padded 9 nanos

/-- The time stamp of an instant. -/
def write (t : Instant) : List Char :=
  let second := t.second % 60 + t.nanos / nanosPerSecond
  writeYear t.date.year ++ '-' :: padded 2 t.date.month ++ '-' :: padded 2 t.date.day
    ++ 'T' :: padded 2 (t.second / 3600) ++ ':' :: padded 2 (t.second / 60 % 60)
    ++ ':' :: padded 2 second ++ writeFraction (t.nanos % nanosPerSecond) ++ ['Z']

end Instant

end FleetQuery
