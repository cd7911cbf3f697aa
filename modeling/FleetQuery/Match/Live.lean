import FleetQuery.Match.Error
import FleetQuery.Text.Lowercase
import FleetQuery.Time.Instant

/-!
# Live values

A live value is what an entity has for a field at the moment of asking.  `Live.compareM` compares
it with a pattern, which is read as the sort of the value demands: integers in decimal, sizes and
ages as literals, texts as they are.  The clock is read for ages alone, and for them only once the
pattern has been read; `Live.compare` compares at a given instant.
-/

namespace FleetQuery

/-- What an entity has for a field. -/
inductive Live
  /-- An answer that is known already. -/
  | flag (answer : Bool)
  /-- A text. -/
  | text (value : String)
  /-- An integer. -/
  | integer (value : Int)
  /-- A number of bytes. -/
  | size (value : Int)
  /-- A time in the past, if it is set, asked for its age. -/
  | age (since? : Option Instant)
  /-- Several texts, any of which may match. -/
  | texts (values : List String)
  /-- A text that may be missing: asked for its presence, or read as empty. -/
  | label (value? : Option String)
  deriving DecidableEq, Repr

/-- Compare a text. -/
def compareText (value : String) (op : Operator) (pattern : String) : Except QueryError Bool :=
  match op with
  | .eq => .ok (value == pattern)
  | .neq => .ok (value != pattern)
  | .like => .ok (FleetQuery.like value pattern)
  | .notLike => .ok (!FleetQuery.like value pattern)
  | op => .error (.comparison (.unsupported .text op))

/-- Compare an integer with a pattern in decimal, white space around it not counting. -/
def compareInteger (value : Int) (op : Operator) (pattern : String) : Except QueryError Bool :=
  match readInteger? (trim pattern.toList) with
  | none => .error (.comparison (.notNumeric pattern))
  | some n =>
    match op with
    | .eq => .ok (value == n)
    | .gt => .ok (n < value)
    | op => .error (.comparison (.unsupported .integer op))

/-- Compare the time elapsed since an instant with a duration.  The pattern is read first; a
time that is not set never matches, and the clock is not read for it. -/
def compareAgeM {m : Type → Type} [Monad m] (clock : m Instant) (since? : Option Instant)
    (op : Operator) (pattern : String) : ExceptT QueryError m Bool := do
  match parseDuration pattern with
  | .error e => throw (.literal e)
  | .ok milliseconds =>
    let nanoseconds : Int := 1000000 * (milliseconds : Int)
    match op, since? with
    | .eq, some t => return (← clock).since t == nanoseconds
    | .gt, some t => return nanoseconds < (← clock).since t
    | .eq, none => return false
    | .gt, none => return false
    | op, _ => throw (.comparison (.unsupported .duration op))

/-- Compare the time elapsed up to `now` with a duration. -/
def compareAge (now : Instant) (since? : Option Instant) (op : Operator) (pattern : String) :
    Except QueryError Bool :=
  (compareAgeM (m := Id) (pure now) since? op pattern).run.run

theorem compareAge_eq (now : Instant) (since? : Option Instant) (op : Operator)
    (pattern : String) :
    compareAge now since? op pattern =
      match parseDuration pattern with
      | .error e => .error (.literal e)
      | .ok milliseconds =>
        match op with
        | .eq => .ok (since?.any fun t => now.since t == 1000000 * (milliseconds : Int))
        | .gt => .ok (since?.any fun t => 1000000 * (milliseconds : Int) < now.since t)
        | op => .error (.comparison (.unsupported .duration op)) := by
  unfold compareAge compareAgeM
  cases parseDuration pattern with
  | error e => rfl
  | ok milliseconds => cases op <;> cases since? <;> rfl

/-- Compare a number of bytes with a size. -/
def compareSize (value : Int) (op : Operator) (pattern : String) : Except QueryError Bool :=
  match parseSize pattern with
  | .error e => .error (.literal e)
  | .ok bytes =>
    match op with
    | .eq => .ok (value == (bytes : Int))
    | .gt => .ok ((bytes : Int) < value)
    | op => .error (.comparison (.unsupported .size op))

/-- Compare several texts, one of which has to match. -/
def compareTexts (values : List String) (op : Operator) (pattern : String) :
    Except QueryError Bool :=
  match op with
  | .eq => .ok (values.any (· == pattern))
  | .like => .ok (values.any fun value => FleetQuery.like value pattern)
  | op => .error (.comparison (.unsupported .texts op))

/-- Compare a text that may be missing. -/
def compareLabel (value? : Option String) (op : Operator) (pattern : String) :
    Except QueryError Bool :=
  match op with
  | .is => .ok value?.isSome
  | op => compareText (value?.getD "") op pattern

/-- Compare a live value with a pattern. -/
def Live.compareM {m : Type → Type} [Monad m] (clock : m Instant) (live : Live) (op : Operator)
    (pattern : String) : ExceptT QueryError m Bool :=
  match live with
  | flag answer => pure answer
  | text value => compareText value op pattern
  | integer value => compareInteger value op pattern
  | size value => compareSize value op pattern
  | age since? => compareAgeM clock since? op pattern
  | texts values => compareTexts values op pattern
  | label value? => compareLabel value? op pattern

/-- Compare a live value with a pattern, at the instant `now`. -/
def Live.compare (now : Instant) (live : Live) (op : Operator) (pattern : String) :
    Except QueryError Bool :=
  (live.compareM (m := Id) (pure now) op pattern).run.run

theorem Live.compare_eq (now : Instant) (live : Live) (op : Operator) (pattern : String) :
    live.compare now op pattern =
      match live with
      | flag answer => .ok answer
      | text value => compareText value op pattern
      | integer value => compareInteger value op pattern
      | size value => compareSize value op pattern
      | age since? => compareAge now since? op pattern
      | texts values => compareTexts values op pattern
      | label value? => compareLabel value? op pattern := by
  cases live <;> rfl

end FleetQuery
