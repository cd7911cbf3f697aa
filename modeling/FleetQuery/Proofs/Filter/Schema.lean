import FleetQuery.Filter.Schema
import FleetQuery.Text.Prefix

/-!
# The rules of a schema

* `Schema.mem_rules_fields`, `Schema.mem_rules_family` : what adding rules adds;
* `FieldSpec.Denotes` : the fields that a specification is about, whatever their names;
* `Schema.exists_rule_of_resolve?` : a name is resolved by a rule of the schema, to a field that
  the rule is about;
* `Schema.display_of_resolve?` : the field is written as the name.
-/

namespace FleetQuery

namespace FieldSpec

/-- The specification is about the field. -/
def Denotes : FieldSpec → Field → Prop
  | exact n, field => field = .named n
  | family f, field => ∃ key, field = .member f key

theorem denotes_of_resolve? {spec : FieldSpec} {name : String} {field : Field}
    (h : spec.resolve? name = some field) : spec.Denotes field := by
  cases spec with
  | exact n =>
    simp only [resolve?, Option.ite_none_right_eq_some, beq_iff_eq] at h
    obtain ⟨rfl, h⟩ := h
    exact (Option.some.inj h).symm
  | family f =>
    simp only [resolve?] at h
    split at h
    · exact ⟨_, (Option.some.inj h).symm⟩
    · cases h

theorem display_of_resolve? {spec : FieldSpec} {name : String} {field : Field}
    (h : spec.resolve? name = some field) : field.display = name := by
  cases spec with
  | exact n =>
    simp only [resolve?, Option.ite_none_right_eq_some, beq_iff_eq] at h
    obtain ⟨rfl, h⟩ := h
    cases h
    rfl
  | family f =>
    simp only [resolve?] at h
    split at h
    · rename_i c key hkey
      cases h
      apply String.toList_injective
      rw [isPrefixOf?_eq_some_iff.1 hkey]
      simp [Field.display]
    · cases h

end FieldSpec

namespace Schema

variable {s : Schema} {rule : FieldRule}

@[simp] theorem rules_empty (name : String) : (empty name).rules = [] := rfl

@[simp] theorem rules_field (s : Schema) (name : String) (operators : List Operator) :
    (s.field name operators).rules = s.rules ++ [⟨.exact name, operators⟩] := rfl

@[simp] theorem rules_family (s : Schema) (name : String) (operators : List Operator) :
    (s.family name operators).rules = s.rules ++ [⟨.family name, operators⟩] := rfl

@[simp] theorem rules_fields (s : Schema) (names : List String) (operators : List Operator) :
    (s.fields names operators).rules =
      s.rules ++ names.map fun name => ⟨.exact name, operators⟩ := by
  rw [fields]
  induction names generalizing s with
  | nil => simp
  | cons name names ih =>
    rw [List.foldl_cons, ih]
    simp

theorem mem_lookupOrder : rule ∈ s.lookupOrder ↔ rule ∈ s.rules := by
  simp only [lookupOrder, List.mem_append, List.mem_filter, Bool.not_eq_true']
  cases h : rule.spec.isExact <;> simp

theorem rule_of_resolve? {name : String} {field : Field}
    (h : s.resolve? name = some (field, rule)) :
    rule ∈ s.rules ∧ rule.spec.resolve? name = some field := by
  obtain ⟨r, hr, hmap⟩ := List.exists_of_findSome?_eq_some h
  obtain ⟨f, hf, heq⟩ := Option.map_eq_some_iff.1 hmap
  obtain ⟨rfl, rfl⟩ := Prod.mk.inj heq
  exact ⟨mem_lookupOrder.1 hr, hf⟩

theorem exists_rule_of_resolve? {name : String} {field : Field}
    (h : s.resolve? name = some (field, rule)) : rule ∈ s.rules ∧ rule.spec.Denotes field :=
  ⟨(rule_of_resolve? h).1, FieldSpec.denotes_of_resolve? (rule_of_resolve? h).2⟩

theorem display_of_resolve? {name : String} {field : Field}
    (h : s.resolve? name = some (field, rule)) : field.display = name :=
  FieldSpec.display_of_resolve? (rule_of_resolve? h).2

end Schema

end FleetQuery
