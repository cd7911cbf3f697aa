import FleetQuery.Filter.Field
import FleetQuery.Filter.Operator

/-!
# Schemas

A schema lists the fields that filters on one kind of entity may use, and the operators that each
field accepts.  `Schema.resolve?` finds the rule of a name: rules for exactly this name go before
rules for families, and among rules of one sort the first wins.
-/

namespace FleetQuery

/-- The names that a rule is about. -/
inductive FieldSpec
  /-- Exactly this name. -/
  | exact (name : String)
  /-- Every `family.key` with a key of at least one character. -/
  | family (name : String)
  deriving DecidableEq, Repr

namespace FieldSpec

/-- The specification as it is listed. -/
def display : FieldSpec → String
  | exact name => name
  | family name => name ++ ".*"

/-- A specification of exactly one name. -/
def isExact : FieldSpec → Bool
  | exact _ => true
  | family _ => false

/-- The field that a name denotes under the specification. -/
def resolve? (spec : FieldSpec) (name : String) : Option Field :=
  match spec with
  | exact n => if n == name then some (.named name) else none
  | family f =>
    match (f.toList ++ ['.']).isPrefixOf? name.toList with
    | some (c :: key) => some (.member f (String.ofList (c :: key)))
    | _ => none

end FieldSpec

/-- A rule of a schema: which fields, and the operators they accept. -/
structure FieldRule where
  /-- The fields that the rule is about. -/
  spec : FieldSpec
  /-- The operators that these fields accept, in the order in which they are listed. -/
  operators : List Operator
  deriving DecidableEq, Repr

/-- The rule accepts the operator. -/
def FieldRule.allows (rule : FieldRule) (op : Operator) : Bool := rule.operators.contains op

/-- The rules for filters on one kind of entity. -/
structure Schema where
  /-- The kind of entity. -/
  name : String
  /-- The rules, in order. -/
  rules : List FieldRule
  deriving DecidableEq, Repr

namespace Schema

/-- A schema without rules. -/
def empty (name : String) : Schema := ⟨name, []⟩

/-- Add a rule at the end. -/
def add (s : Schema) (spec : FieldSpec) (operators : List Operator) : Schema :=
  { s with rules := s.rules ++ [⟨spec, operators⟩] }

/-- Add a rule for one name. -/
def field (s : Schema) (name : String) (operators : List Operator) : Schema :=
  s.add (.exact name) operators

/-- Add a rule for each of several names, all with the same operators. -/
def fields (s : Schema) (names : List String) (operators : List Operator) : Schema :=
  names.foldl (fun s name => s.field name operators) s

/-- Add a rule for a family of fields. -/
def family (s : Schema) (name : String) (operators : List Operator) : Schema :=
  s.add (.family name) operators

/-- The rules in the order in which names are looked up: exact names, then families. -/
def lookupOrder (s : Schema) : List FieldRule :=
  s.rules.filter (·.spec.isExact) ++ s.rules.filter fun rule => !rule.spec.isExact

/-- The field that a name denotes, and the rule that says so. -/
def resolve? (s : Schema) (name : String) : Option (Field × FieldRule) :=
  s.lookupOrder.findSome? fun rule => (rule.spec.resolve? name).map (·, rule)

end Schema

end FleetQuery
