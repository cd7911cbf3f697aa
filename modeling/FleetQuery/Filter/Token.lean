import FleetQuery.Filter.Fault
import FleetQuery.Text.Blank

/-!
# Tokens of filters

Field names, operators and patterns, each read from the front of a text as far as it goes.
-/

namespace FleetQuery

/-- A text where reading stopped: what is wrong, and the text still to be read there. -/
structure Stop where
  /-- What is wrong. -/
  fault : FilterFault
  /-- The text from the offending place on. -/
  rest : List Char
  deriving DecidableEq, Repr

/-- A character that a field name may start with. -/
def isFieldStart (c : Char) : Bool :=
  ('a' ≤ c && c ≤ 'z') || ('A' ≤ c && c ≤ 'Z') || c == '_'

/-- A character that a field name may hold. -/
def isFieldChar (c : Char) : Bool :=
  isFieldStart c || ('0' ≤ c && c ≤ '9') || c == '.' || c == '-' || c == '/'

/-- A character of a bare pattern. -/
def isBareChar (c : Char) : Bool :=
  !isWhiteSpace c && !(c == '(' || c == ')' || c == '|' || c == '&')

/-- The field name at the front of a text, and what follows it. -/
def fieldName? : List Char → Option (List Char × List Char)
  | c :: s =>
    if isFieldStart c then some (c :: s.takeWhile isFieldChar, s.dropWhile isFieldChar) else none
  | [] => none

/-- The longest operator at the front of a text, and what follows it. -/
def operator? : List Char → Option (Operator × List Char)
  | '!' :: '=' :: s => some (.neq, s)
  | '!' :: '~' :: s => some (.notLike, s)
  | '>' :: '=' :: s => some (.gte, s)
  | '<' :: '=' :: s => some (.lte, s)
  | '=' :: s => some (.eq, s)
  | '~' :: s => some (.like, s)
  | '>' :: s => some (.gt, s)
  | '<' :: s => some (.lt, s)
  | _ => none

/-- The text up to the next `quote`, which ends a quoted pattern. -/
def quotedPattern (quote : Char) (s : List Char) : Except Stop (List Char × List Char) :=
  match s.dropWhile (· != quote) with
  | _ :: rest => .ok (s.takeWhile (· != quote), rest)
  | [] => .error ⟨.malformed .expectedQuote, []⟩

/-- The pattern at the front of a text: between quotes, or the longest run of bare characters. -/
def pattern : List Char → Except Stop (List Char × List Char)
  | '\'' :: s => quotedPattern '\'' s
  | '"' :: s => quotedPattern '"' s
  | s =>
    match s.takeWhile isBareChar with
    | [] => .error ⟨.malformed .expectedValue, s⟩
    | p => .ok (p, s.dropWhile isBareChar)

end FleetQuery
