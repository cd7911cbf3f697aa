import FleetQuery.Time.Calendar

/-!
# Instants

An instant of Coordinated Universal Time, to the nanosecond.  A leap second is the second after
second 59 of a minute, written into the nanoseconds: they run from `10 ^ 9` up inside it.
`Instant.since` is the time between two instants in nanoseconds.
-/

namespace FleetQuery

/-- The nanoseconds of a second, `10 ^ 9`. -/
def nanosPerSecond : Nat := 1000000000

/-- The seconds of a day. -/
def secondsPerDay : Nat := 86400

/-- A second of a day and its nanoseconds; only the last second of a minute may be followed by a
leap second. -/
def isTimeOfDay (second nanos : Nat) : Bool :=
  second < secondsPerDay &&
    (nanos < nanosPerSecond || (nanos < 2 * nanosPerSecond && second % 60 == 59))

/-- An instant of Coordinated Universal Time. -/
structure Instant where
  /-- The day. -/
  date : Date
  /-- The second of the day. -/
  second : Nat
  /-- The nanoseconds since the start of the second; from `10 ^ 9` on, inside a leap second. -/
  nanos : Nat
  /-- The day has such a time. -/
  valid : isTimeOfDay second nanos = true
  deriving DecidableEq, Repr

namespace Instant

/-- The instant at a time of a day, if the day has such a time. -/
def of? (date : Date) (second nanos : Nat) : Option Instant :=
  if h : isTimeOfDay second nanos = true then some ⟨date, second, nanos, h⟩ else none

theorem of?_eq (t : Instant) : of? t.date t.second t.nanos = some t := by
  simp [of?, t.valid]

/-- The instant lies in a leap second. -/
def isLeap (t : Instant) : Bool := nanosPerSecond ≤ t.nanos

/-- The leap second that lies between two times of day and is not yet counted: one if the later
time has a greater second of the day and the earlier time is in a leap second, minus one the
other way round. -/
def leapBetween (later earlier : Instant) : Int :=
  if earlier.second < later.second then (if earlier.isLeap then 1 else 0)
  else if later.second < earlier.second then (if later.isLeap then -1 else 0)
  else 0

/-- The nanoseconds from `earlier` to `later`. -/
def since (later earlier : Instant) : Int :=
  let days := later.date.number - earlier.date.number
  let seconds : Int := (later.second : Int) - earlier.second + leapBetween later earlier
  (days * secondsPerDay + seconds) * nanosPerSecond + ((later.nanos : Int) - earlier.nanos)

/-- A zero time stands for "never": times in year 1 or before are dropped. -/
def nonZero? (t? : Option Instant) : Option Instant := t?.filter fun t => 1 < t.date.year

end Instant

end FleetQuery
