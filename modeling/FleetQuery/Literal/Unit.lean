import FleetQuery.Text.Prefix

/-!
# Units of literals

A literal is a sum of counts with units.  A `Scale` lists the units of one kind of literal, each
with its magnitude in the base unit, in the order in which they are tried: where one unit is the
start of another, the longer one comes first.
-/

namespace FleetQuery

/-- The units of one kind of literal. -/
structure Scale where
  /-- Units and their magnitudes, in the order in which they are tried. -/
  units : List (String × Nat)
  /-- The magnitude of a count without unit at the end of a literal, where that is allowed. -/
  bareTail? : Option Nat
  deriving DecidableEq, Repr

namespace Scale

/-- Milliseconds in a second. -/
def second : Nat := 1000

/-- Milliseconds in a minute. -/
def minute : Nat := 60 * second

/-- Milliseconds in an hour. -/
def hour : Nat := 60 * minute

/-- Milliseconds in a day. -/
def day : Nat := 24 * hour

/-- Durations, in milliseconds; a month has 30 days and a year 365. -/
def duration : Scale where
  units := [("months", 30 * day), ("ms", 1), ("s", second), ("m", minute), ("h", hour),
    ("d", day), ("w", 7 * day), ("M", 30 * day), ("y", 365 * day)]
  bareTail? := none

/-- Sizes, in bytes; with a capital `B` a unit is a power of 1024, else a power of 1000. -/
def size : Scale where
  units := [("KB", 1024), ("Kb", 1000), ("kb", 1000), ("MB", 1024 * 1024), ("Mb", 1000 * 1000),
    ("GB", 1024 * 1024 * 1024), ("Gb", 1000 * 1000 * 1000)]
  bareTail? := some 1

/-- The unit at the front of a text: its magnitude, and what follows it.  An empty text stands
for the unit of a bare tail. -/
def unit? (scale : Scale) (s : List Char) : Option (Nat × List Char) :=
  if s.isEmpty then scale.bareTail?.map (·, [])
  else scale.units.findSome? fun (name, magnitude) =>
    (name.toList.isPrefixOf? s).map (magnitude, ·)

theorem length_le_of_unit? {scale : Scale} {s rest : List Char} {m : Nat}
    (h : scale.unit? s = some (m, rest)) : rest.length ≤ s.length := by
  unfold unit? at h
  split at h
  · obtain ⟨_, _, h⟩ := Option.map_eq_some_iff.1 h
    simp [← (Prod.mk.inj h).2]
  · obtain ⟨u, _, h⟩ := List.exists_of_findSome?_eq_some h
    obtain ⟨r, hr, h⟩ := Option.map_eq_some_iff.1 h
    obtain ⟨-, rfl⟩ := Prod.mk.inj h
    simp [isPrefixOf?_eq_some_iff.1 hr]

end Scale

end FleetQuery
