import FleetQuery.Entity.Kind
import FleetQuery.Json.Reader

/-!
# Kinds in JSON

A kind is written as its name.  It is read from its name in the singular or the plural, or from
an object with that name as its only key and null under it.
-/

namespace FleetQuery

namespace EntityKind

/-- The kind whose key is the text that follows. -/
def readKey : Json.Reader EntityKind := do
  match ofKey? (← Json.readText) with
  | some kind => pure kind
  | none => Json.Reader.refuse .misshapen

/-- The brace that ends the object of a kind. -/
def closeBrace : Json.Reader Unit := fun s =>
  match skipBlanks s with
  | '\x7d' :: s => .ok ((), s)
  | [] => .error .truncated
  | _ => .error .malformed

/-- The only key of the object of a kind, with null under it, and the brace that ends the
object. -/
def readObject : Json.Reader EntityKind := do
  let kind ← readKey
  Json.readColon
  Json.readNull
  closeBrace
  pure kind

/-- A kind, by its name or as an object, whose key has to be a text. -/
def read : Json.Reader EntityKind := fun s =>
  match skipBlanks s with
  | '"' :: s => readKey ('"' :: s)
  | '\x7b' :: s =>
    match skipBlanks s with
    | '"' :: s => readObject ('"' :: s)
    | [] => .error .truncated
    | _ => .error .malformed
  | [] => .error .truncated
  | _ => .error .malformed

end EntityKind

end FleetQuery
