import FleetQuery.Json.Lexeme

/-!
# Skipping JSON values

A value under a key that nobody asked for is skipped: it has to be JSON, but it may be nested to
any depth, so the open brackets are kept in a list.
-/

namespace FleetQuery

namespace Json

/-- A bracket that is open. -/
inductive Bracket
  /-- An array is open. -/
  | square
  /-- An object is open. -/
  | curly
  deriving DecidableEq, Repr

/-- Skip a word, a number or a string. -/
def skipScalar : List Char → Outcome (List Char)
  | 'n' :: s => word ['u', 'l', 'l'] s
  | 't' :: s => word ['r', 'u', 'e'] s
  | 'f' :: s => word ['a', 'l', 's', 'e'] s
  | '"' :: s => skipString s
  | c :: s =>
    if c == '-' || isDigit c then (number .malformed (c :: s)).map (·.2) else .error .malformed
  | [] => .error .truncated

/-- Skip a key and its colon. -/
def skipKey (s : List Char) : Outcome (List Char) :=
  match skipBlanks s with
  | '"' :: s => do
    let s ← skipString s
    match skipBlanks s with
    | ':' :: s => .ok s
    | [] => .error .truncated
    | _ => .error .malformed
  | [] => .error .truncated
  | _ => .error .malformed

/-- One step of skipping: `done` tells whether a value has just ended or one has to begin.  The
result is the next state, or the text after the value once no bracket is open. -/
def skipStep (done : Bool) (opened : List Bracket) (s : List Char) :
    Outcome ((Bool × List Bracket × List Char) ⊕ List Char) :=
  if done then
    match opened with
    | [] => .ok (.inr s)
    | bracket :: outer =>
      match bracket, skipBlanks s with
      | _, [] => .error .truncated
      | .square, ',' :: s => .ok (.inl (false, opened, s))
      | .square, ']' :: s => .ok (.inl (true, outer, s))
      | .curly, ',' :: s => (skipKey s).map fun s => .inl (false, opened, s)
      | .curly, '\x7d' :: s => .ok (.inl (true, outer, s))
      | _, _ => .error .malformed
  else
    match skipBlanks s with
    | '[' :: s =>
      match skipBlanks s with
      | ']' :: s => .ok (.inl (true, opened, s))
      | s => .ok (.inl (false, .square :: opened, s))
    | '\x7b' :: s =>
      match skipBlanks s with
      | '\x7d' :: s => .ok (.inl (true, opened, s))
      | s => (skipKey s).map fun s => .inl (false, .curly :: opened, s)
    | s => (skipScalar s).map fun s => .inl (true, opened, s)

/-- Take steps until the value has ended.  Every step but the last takes at least one character
off the text. -/
def skipLoop : Nat → Bool → List Bracket → List Char → Outcome (List Char)
  | 0, _, _, _ => .error .truncated
  | n + 1, done, opened, s =>
    match skipStep done opened s with
    | .error e => .error e
    | .ok (.inr s) => .ok s
    | .ok (.inl (done, opened, s)) => skipLoop n done opened s

/-- Skip the value at the front of a text. -/
def skipValue (s : List Char) : Outcome (List Char) :=
  skipLoop (s.length + 1) false [] s

end Json

end FleetQuery
