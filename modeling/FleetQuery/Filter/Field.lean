/-!
# Fields

A field of an entity is a plain name such as `running`, or a member of a family such as
`label.env`, where the family is `label` and the key is `env`.
-/

namespace FleetQuery

/-- A field that a filter asks for. -/
inductive Field
  /-- A plain field. -/
  | named (name : String)
  /-- A member of a family of fields. -/
  | member (family key : String)
  deriving DecidableEq, Repr

/-- The field as it is written in a filter. -/
def Field.display : Field → String
  | named name => name
  | member family key => family ++ "." ++ key

end FleetQuery
