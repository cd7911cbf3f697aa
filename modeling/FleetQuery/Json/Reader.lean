import FleetQuery.Json.Lexeme
import FleetQuery.Json.Skip

/-!
# Readers of JSON values

A reader takes a value of a wanted shape off the front of a text.  Where another value stands,
`misfit` says what is wrong: a value that is JSON has the wrong shape, and a text that is not JSON
is malformed, as far as one has to read to see it.  Arrays and objects are read one item at a
time, so the first problem in the text decides.
-/

namespace FleetQuery

namespace Json

/-- A reader of values. -/
abbrev Reader (α : Type) := StateT (List Char) Outcome α

namespace Reader

/-- Refuse the text. -/
def refuse {α : Type} (fault : JsonFault) : Reader α := fun _ => .error fault

end Reader

/-- What is wrong with a text that starts with another value than the wanted one. -/
def misfit (s : List Char) : JsonFault :=
  let read : Except JsonFault Unit :=
    match s with
    | [] => .error .truncated
    | 'n' :: s => (word ['u', 'l', 'l'] s).map fun _ => ()
    | 't' :: s => (word ['r', 'u', 'e'] s).map fun _ => ()
    | 'f' :: s => (word ['a', 'l', 's', 'e'] s).map fun _ => ()
    | '"' :: s => (decodeString s).map fun _ => ()
    | '[' :: _ => .ok ()
    | '\x7b' :: _ => .ok ()
    | c :: s =>
      if c == '-' || isDigit c then
        match number .truncated (c :: s) with
        | .error e => .error e
        | .ok (n, _) => if n.isOutOfRange then .error .malformed else .ok ()
      else .error .malformed
  match read with
  | .error e => e
  | .ok () => .misshapen

/-! ### Simple values -/

/-- A text. -/
def readText : Reader String := fun s =>
  match skipBlanks s with
  | '"' :: s => decodeString s
  | s => .error (misfit s)

/-- A truth value. -/
def readFlag : Reader Bool := fun s =>
  match skipBlanks s with
  | 't' :: s => (word ['r', 'u', 'e'] s).map (true, ·)
  | 'f' :: s => (word ['a', 'l', 's', 'e'] s).map (false, ·)
  | s => .error (misfit s)

/-- A signed 64-bit integer. -/
def readInteger : Reader Int := fun s =>
  let s := skipBlanks s
  match number .truncated s with
  | .ok (n, rest) =>
    match n.integer? with
    | some value => .ok (value, rest)
    | none => .error (misfit s)
  | .error _ => .error (misfit s)

/-- The null value. -/
def readNull : Reader Unit := fun s =>
  match skipBlanks s with
  | 'n' :: s => (word ['u', 'l', 'l'] s).map ((), ·)
  | s => .error (misfit s)

/-- A value that may be null. -/
def readOptional {α : Type} (read : Reader α) : Reader (Option α) := fun s =>
  match skipBlanks s with
  | 'n' :: s => (word ['u', 'l', 'l'] s).map (none, ·)
  | s => (read s).map fun (a, rest) => (some a, rest)

/-! ### Arrays -/

/-- Go to the next item of an array: `false` at the closing bracket, which is left. -/
def atItem (first : Bool) : Reader Bool := fun s =>
  match skipBlanks s with
  | [] => .error .truncated
  | ']' :: s => .ok (false, ']' :: s)
  | c :: s =>
    if first then .ok (true, c :: s)
    else if c == ',' then
      match skipBlanks s with
      | [] => .error .truncated
      | ']' :: _ => .error .malformed
      | s => .ok (true, s)
    else .error .malformed

/-- The closing bracket of an array. -/
def closeArray : Reader Unit := fun s =>
  match skipBlanks s with
  | [] => .error .truncated
  | ']' :: s => .ok ((), s)
  | _ => .error .malformed

/-- The items of an array up to its closing bracket, in at most `n` steps. -/
def readItems {α : Type} (read : Reader α) : Nat → Bool → Reader (List α)
  | 0, _ => Reader.refuse .truncated
  | n + 1, first => do
    if ← atItem first then
      let a ← read
      let rest ← readItems read n false
      pure (a :: rest)
    else
      closeArray
      pure []

/-- An array.  Every item takes at least one character, so the length of the text bounds the
steps. -/
def readArray {α : Type} (read : Reader α) : Reader (List α) := fun s =>
  match skipBlanks s with
  | '[' :: s => readItems read (s.length + 1) true s
  | s => .error (misfit s)

/-! ### Objects -/

/-- Go to the next key of an object: `false` at the closing brace, which is taken. -/
def atKey (first : Bool) : Reader Bool := fun s =>
  match skipBlanks s with
  | [] => .error .truncated
  | '\x7d' :: s => .ok (false, s)
  | c :: s =>
    if first then (if c == '"' then .ok (true, s) else .error .malformed)
    else if c == ',' then
      match skipBlanks s with
      | [] => .error .truncated
      | '"' :: s => .ok (true, s)
      | _ => .error .malformed
    else .error .malformed

/-- The colon between a key and its value. -/
def readColon : Reader Unit := fun s =>
  match skipBlanks s with
  | [] => .error .truncated
  | ':' :: s => .ok ((), s)
  | _ => .error .malformed

/-- Pass over a value. -/
def passValue : Reader Unit := fun s => (skipValue s).map ((), ·)

/-- The members of an object up to its closing brace, in at most `n` steps.  `step` reads the
colon and the value of a key and takes them up. -/
def readMembers {σ : Type} (step : σ → String → Reader σ) : Nat → Bool → σ → Reader σ
  | 0, _, _ => Reader.refuse .truncated
  | n + 1, first, state => do
    if ← atKey first then
      let key ← decodeString
      let state ← step state key
      readMembers step n false state
    else
      pure state

/-- The members of an object, after its opening brace. -/
def readObjectBody {σ : Type} (step : σ → String → Reader σ) (start : σ) : Reader σ := fun s =>
  readMembers step (s.length + 1) true start s

/-! ### Whole texts -/

/-- Read a text that holds one value and nothing else. -/
def readWhole {α : Type} (read : Reader α) (text : String) : Except JsonFault α :=
  match read text.toList with
  | .error e => .error e
  | .ok (a, rest) => if (skipBlanks rest).isEmpty then .ok a else .error .malformed

end Json

end FleetQuery
