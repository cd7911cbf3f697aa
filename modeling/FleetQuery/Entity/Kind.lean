import FleetQuery.Text.Lowercase

/-!
# Kinds of entities

Filters run against containers or against images.  People may name a kind in the singular or the
plural and in any case (`EntityKind.ofText?`); stored records and configuration files name it
in lower case only (`EntityKind.ofKey?`).
-/

namespace FleetQuery

/-- A kind of entity. -/
inductive EntityKind
  /-- Containers. -/
  | container
  /-- Images. -/
  | image
  deriving DecidableEq, Repr, Inhabited

namespace EntityKind

/-- The name of a kind. -/
def name : EntityKind → String
  | container => "container"
  | image => "image"

/-- The kind with exactly this name, in the singular or the plural. -/
def ofKey? (s : String) : Option EntityKind :=
  if s == "container" || s == "containers" then some container
  else if s == "image" || s == "images" then some image
  else none

/-- The kind with this name in any case, or why there is none. -/
def ofText? (s : String) : Except String EntityKind :=
  let key := String.ofList (lowercase s.toList)
  match ofKey? key with
  | some kind => .ok kind
  | none => .error ("unknown entity kind '" ++ key ++ "'")

end EntityKind

end FleetQuery
