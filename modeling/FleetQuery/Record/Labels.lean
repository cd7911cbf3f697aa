import FleetQuery.Json.Record

/-!
# Labels

The labels of a container or an image: texts under distinct keys.  A key that is given again
keeps its place and takes the new value.
-/

namespace FleetQuery

/-- Texts under distinct keys. -/
structure Labels where
  /-- The keys with their texts. -/
  entries : List (String × String)
  /-- No key stands twice. -/
  nodup : (entries.map Prod.fst).Nodup
  deriving DecidableEq, Repr

namespace Labels

/-- No labels. -/
def empty : Labels := ⟨[], List.nodup_nil⟩

/-- The text under a key. -/
def get? (ls : Labels) (key : String) : Option String := ls.entries.lookup key

/-- Entries with the text of a key replaced. -/
def replace (entries : List (String × String)) (key value : String) : List (String × String) :=
  entries.map fun e => if e.1 == key then (e.1, value) else e

theorem map_fst_replace (entries : List (String × String)) (key value : String) :
    (replace entries key value).map Prod.fst = entries.map Prod.fst := by
  simp only [replace, List.map_map]
  apply List.map_congr_left
  intro e _
  simp only [Function.comp]
  split <;> rfl

/-- Put a text under a key. -/
def insert (ls : Labels) (key value : String) : Labels :=
  if h : key ∈ ls.entries.map Prod.fst then
    ⟨replace ls.entries key value, by rw [map_fst_replace]; exact ls.nodup⟩
  else
    ⟨ls.entries ++ [(key, value)], by
      rw [List.map_append, List.nodup_append]
      refine ⟨ls.nodup, by simp, ?_⟩
      intro a ha b hb hab
      simp only [List.map_cons, List.map_nil, List.mem_singleton] at hb
      exact h (hb ▸ hab ▸ ha)⟩

/-- Labels in JSON are an object of texts. -/
def codec : Json.Codec Labels where
  read := fun s =>
    match skipBlanks s with
    | '\x7b' :: s =>
      Json.readObjectBody
        (fun ls key => do
          Json.readColon
          let value ← Json.readText
          pure (ls.insert key value))
        empty s
    | s => .error (Json.misfit s)
  write ls := .object (ls.entries.map fun (key, value) => (key, .text value))

end Labels

end FleetQuery
