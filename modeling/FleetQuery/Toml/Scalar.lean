import FleetQuery.Text.Magnitude
import FleetQuery.Time.Calendar

/-!
# Numbers, truth values and dates of TOML

Checks of the values that are written without quotes or brackets.
-/

namespace FleetQuery

namespace Toml

/-- Digits of a sort with single underscores between them; the digits, if that is so. -/
def grouped? (isDigitOfSort : Char → Bool) : List Char → Option (List Char)
  | [] => none
  | [c] => if isDigitOfSort c then some [c] else none
  | c :: '_' :: s =>
    if isDigitOfSort c then (grouped? isDigitOfSort s).map (c :: ·) else none
  | c :: s => if isDigitOfSort c then (grouped? isDigitOfSort s).map (c :: ·) else none

/-- A text without its sign, and whether the sign is a minus. -/
def unsigned : List Char → Bool × List Char
  | '-' :: s => (true, s)
  | '+' :: s => (false, s)
  | s => (false, s)

/-- The value of digits to a base up to 16. -/
def valueTo (base : Nat) (ds : List Char) : Nat :=
  ds.foldl (fun n d =>
    base * n + (if isDigit d then d.toNat - 48 else d.toLower.toNat - 87)) 0

/-- A digit of hexadecimal numbers. -/
def isHexDigit (c : Char) : Bool :=
  isDigit c || ('a' ≤ c && c ≤ 'f') || ('A' ≤ c && c ≤ 'F')

/-- Digits of a sort that stand for a number that is not too great. -/
def isBased (base : Nat) (isDigitOfSort : Char → Bool) (s : List Char) : Bool :=
  (grouped? isDigitOfSort s).any fun ds => valueTo base ds ≤ maxInteger

/-- Decimal digits of a number without leading zeros. -/
def decimal? (s : List Char) : Option (List Char) :=
  match grouped? isDigit s with
  | some ('0' :: _ :: _) => none
  | ds => ds

/-- An integer. -/
def isInteger : List Char → Bool
  | '0' :: 'x' :: s => isBased 16 isHexDigit s
  | '0' :: 'o' :: s => isBased 8 (fun c => '0' ≤ c && c ≤ '7') s
  | '0' :: 'b' :: s => isBased 2 (fun c => c == '0' || c == '1') s
  | s =>
    let (negative, s) := unsigned s
    (decimal? s).any fun ds =>
      isInteger64 (if negative then -(digitsValue ds : Int) else digitsValue ds)

/-- The exponent of a text that is empty or starts with the letter of an exponent. -/
def exponent? : List Char → Option Int
  | [] => some 0
  | c :: s =>
    if c == 'e' || c == 'E' then
      let (negative, s) := unsigned s
      (grouped? isDigit s).map fun ds =>
        if negative then -(digitsValue ds : Int) else digitsValue ds
    else none

/-- A number with a fraction or an exponent; a positive one may not be past the doubles. -/
def isFractional (s : List Char) : Bool :=
  let (negative, s) := unsigned s
  let isExponent := fun c => c == 'e' || c == 'E'
  let mantissa := s.takeWhile fun c => !isExponent c
  let whole := mantissa.takeWhile (· != '.')
  let read := do
    let ds ← decimal? whole
    let fs ← match mantissa.dropWhile (· != '.') with
      | [] => some []
      | _ :: fs => grouped? isDigit fs
    let e ← exponent? (s.dropWhile fun c => !isExponent c)
    some (negative || !exceedsDouble (ds ++ fs) (e - fs.length))
  read == some true && (s.contains '.' || s.any isExponent)

/-- Infinity or no number at all. -/
def isSpecial (s : List Char) : Bool :=
  let (_, s) := unsigned s
  s == ['i', 'n', 'f'] || s == ['n', 'a', 'n']

/-- A truth value. -/
def isTruth (s : List Char) : Bool :=
  s == ['t', 'r', 'u', 'e'] || s == ['f', 'a', 'l', 's', 'e']

/-- A number or a truth value. -/
def isScalar (s : List Char) : Bool := isTruth s || isInteger s || isFractional s || isSpecial s

/-! ### Dates and times -/

/-- The value of a text of a given number of digits. -/
def fixed? (width : Nat) (s : List Char) : Option Nat :=
  if s.length == width && s.all isDigit then some (digitsValue s) else none

/-- A day, as year, month and day of the month. -/
def isDay (s : List Char) : Bool :=
  match s with
  | [a, b, c, d, '-', e, f, '-', g, h] =>
    match fixed? 4 [a, b, c, d], fixed? 2 [e, f], fixed? 2 [g, h] with
    | some y, some m, some d => isDate y m d
    | _, _, _ => false
  | _ => false

/-- An offset from universal time. -/
def isOffset : List Char → Bool
  | ['Z'] => true
  | ['z'] => true
  | [sign, a, b, ':', c, d] =>
    (sign == '+' || sign == '-') &&
      match fixed? 2 [a, b], fixed? 2 [c, d] with
      | some h, some m => h ≤ 23 && m ≤ 59
      | _, _ => false
  | _ => false

/-- What may follow the seconds of a time: a fraction, and an offset where one is allowed. -/
def isTimeTail (mayHaveOffset : Bool) (s : List Char) : Bool :=
  let rest? := match s with
    | '.' :: s => if (s.takeWhile isDigit).isEmpty then none else some (s.dropWhile isDigit)
    | s => some s
  rest?.any fun rest => rest.isEmpty || (mayHaveOffset && isOffset rest)

/-- A time of day. -/
def isTime (mayHaveOffset : Bool) : List Char → Bool
  | a :: b :: ':' :: c :: d :: ':' :: e :: f :: s =>
    match fixed? 2 [a, b], fixed? 2 [c, d], fixed? 2 [e, f] with
    | some h, some m, some sec => h ≤ 23 && m ≤ 59 && sec ≤ 60 && isTimeTail mayHaveOffset s
    | _, _, _ => false
  | _ => false

/-- A date, a time, or both with a letter between them. -/
def isMoment (s : List Char) : Bool :=
  isDay s || isTime false s ||
    (isDay (s.take 10) &&
      match s.drop 10 with
      | c :: s => (c == 'T' || c == 't' || c == ' ') && isTime true s
      | [] => false)

end Toml

end FleetQuery
