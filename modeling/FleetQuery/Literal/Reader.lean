import FleetQuery.Literal.Unit
import FleetQuery.Text.Blank
import FleetQuery.Text.Integer
import FleetQuery.Text.Located

/-!
# Reading literals

A literal is a sequence of components, each a count directly followed by its unit, with blanks
allowed around components.  Its value is the sum of the counts times the magnitudes of their
units, and has to be a signed 64-bit integer; so has every count.  The first component that cannot
be completed decides the fault.
-/

namespace FleetQuery

/-- Why a text is no literal. -/
inductive LiteralFault
  /-- The text is blank. -/
  | noValue
  /-- A component does not start with a digit. -/
  | missingNumber
  /-- No unit follows a count. -/
  | missingUnit
  /-- A count, a component or the sum does not fit. -/
  | tooLarge
  deriving DecidableEq, Repr

/-- The wording of a fault. -/
def LiteralFault.message : LiteralFault → String
  | noValue => "no value"
  | missingNumber => "was expecting a numeric value"
  | missingUnit => "was expecting a unit"
  | tooLarge => "value is too large"

/-- A literal that was refused. -/
abbrev LiteralError := Located LiteralFault

/-- The wording of a refusal. -/
def LiteralError.message (e : LiteralError) : String :=
  "invalid literal '" ++ e.input ++ "': " ++ e.fault.message ++ " at position "
    ++ toString e.position

namespace Scale

/-- Why a component cannot be completed, and the text from the offending place on. -/
abbrev Blame := LiteralFault × List Char

/-- The component at the front of a text, on top of a sum so far: the new sum and what follows. -/
def component (scale : Scale) (total : Nat) (s : List Char) : Except Blame (Nat × List Char) :=
  let digits := s.takeWhile isDigit
  let rest := s.dropWhile isDigit
  if digits.isEmpty then .error (.missingNumber, s)
  else if maxInteger < digitsValue digits then .error (.tooLarge, s)
  else match scale.unit? rest with
    | none => .error (.missingUnit, rest)
    | some (magnitude, after) =>
      let total := total + digitsValue digits * magnitude
      if maxInteger < total then .error (.tooLarge, s) else .ok (total, after)

/-- A component takes at least one digit off the text. -/
theorem length_lt_of_component {scale : Scale} {total total' : Nat} {s rest : List Char}
    (h : scale.component total s = .ok (total', rest)) : rest.length < s.length := by
  unfold component at h
  simp only at h
  split at h
  · simp at h
  · next hd =>
    split at h
    · simp at h
    · split at h
      · simp at h
      · next hu =>
        split at h
        · simp at h
        · simp only [Except.ok.injEq, Prod.mk.injEq] at h
          have hlen := congrArg List.length
            (List.takeWhile_append_dropWhile (p := isDigit) (l := s))
          have hpos : 0 < (s.takeWhile isDigit).length := by
            simpa [List.length_pos_iff] using hd
          have := length_le_of_unit? hu
          rw [List.length_append] at hlen
          rw [← h.2]
          omega

/-- Add up the components of a text without leading blanks. -/
def sum (scale : Scale) (total : Nat) (s : List Char) : Except Blame Nat :=
  if s.isEmpty then .ok total
  else match _h : scale.component total s with
    | .error blame => .error blame
    | .ok (total, rest) => scale.sum total (skipBlanks rest)
  termination_by s.length
  decreasing_by
    exact Nat.lt_of_le_of_lt (List.dropWhile_sublist isBlank).length_le (length_lt_of_component _h)

/-- The value of a literal, in the base unit. -/
def read (scale : Scale) (input : String) : Except LiteralError Nat :=
  let s := skipBlanks input.toList
  if s.isEmpty then .error (.before .noValue s input)
  else match scale.sum 0 s with
    | .error (fault, rest) => .error (.before fault rest input)
    | .ok total => .ok total

end Scale

/-- The milliseconds that a duration literal stands for. -/
def parseDuration (input : String) : Except LiteralError Nat := Scale.duration.read input

/-- The bytes that a size literal stands for. -/
def parseSize (input : String) : Except LiteralError Nat := Scale.size.read input

/-- A number of milliseconds in nanoseconds, where that is a signed 64-bit integer. -/
def nanoseconds? (milliseconds : Nat) : Option Nat :=
  if 1000000 * milliseconds ≤ maxInteger then some (1000000 * milliseconds) else none

end FleetQuery
