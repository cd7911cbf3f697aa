import FleetQuery.Proofs.Filter.Schema

/-!
# How a schema resolves names

A schema is built by adding rules one after the other.  Which rule a name is resolved by is said
here by where the rules stand in the list:

* `SchemaStep`, `Schema.build` : building a schema, and `Schema.rules_build`, the rules that come of
  it;
* `IsMember` : the members of a family of fields;
* `Resolves` : the first rule for exactly the name, else the first family that has it as a member,
  else nothing;
* `WithFamilies` : rules for families are put between the rules of a list;
* `Schema.resolves_build` : **every schema resolves names so; families never get between a name and
  its exact rule, and rules of the same sort behind the deciding one change nothing.**

The two sorts of rules are looked through one after the other, so all of this is about the first
rule of one sort (`FieldRule.ofSort?`).
-/

namespace FleetQuery

/-! ### Building a schema -/

/-- A step in building a schema. -/
inductive SchemaStep
  /-- Add a rule for one name. -/
  | field (name : String) (operators : List Operator)
  /-- Add a rule for each of several names. -/
  | fields (names : List String) (operators : List Operator)
  /-- Add a rule for a family of fields. -/
  | family (name : String) (operators : List Operator)

/-- The rules that a step adds. -/
def SchemaStep.rules : SchemaStep → List FieldRule
  | field name operators => [⟨.exact name, operators⟩]
  | fields names operators => names.map fun name => ⟨.exact name, operators⟩
  | family name operators => [⟨.family name, operators⟩]

namespace Schema

/-- Go one step on. -/
def extend (s : Schema) : SchemaStep → Schema
  | .field name operators => s.field name operators
  | .fields names operators => s.fields names operators
  | .family name operators => s.family name operators

/-- The schema of a kind of entity that is built in some steps. -/
def build (kind : String) (steps : List SchemaStep) : Schema := steps.foldl extend (empty kind)

theorem rules_extend (s : Schema) (step : SchemaStep) :
    (s.extend step).rules = s.rules ++ step.rules := by
  cases step <;> simp [extend, SchemaStep.rules]

theorem rules_build (kind : String) (steps : List SchemaStep) :
    (build kind steps).rules = steps.flatMap SchemaStep.rules := by
  have hfoldl : ∀ s : Schema, (steps.foldl extend s).rules =
      s.rules ++ steps.flatMap SchemaStep.rules := by
    induction steps with
    | nil => simp
    | cons step steps ih =>
      intro s
      rw [List.foldl_cons, ih, rules_extend, List.flatMap_cons, List.append_assoc]
  rw [build, hfoldl, rules_empty, List.nil_append]

end Schema

/-! ### Definitions -/

/-- The name is that of the member `key` of a family. -/
def IsMember (name family key : String) : Prop := key ≠ "" ∧ name = family ++ "." ++ key

/-- What a name is resolved to by a list of rules, with the rule that decides. -/
inductive Resolves (rules : List FieldRule) (name : String) : Option (Field × FieldRule) → Prop
  /-- The first rule for exactly the name. -/
  | exact {before after : List FieldRule} {rule : FieldRule} :
      rules = before ++ rule :: after → rule.spec = .exact name →
      (∀ r ∈ before, r.spec ≠ .exact name) → Resolves rules name (some (.named name, rule))
  /-- No rule is for exactly the name: the first family with the name as a member. -/
  | family {before after : List FieldRule} {rule : FieldRule} {family key : String} :
      (∀ r ∈ rules, r.spec ≠ .exact name) → rules = before ++ rule :: after →
      rule.spec = .family family → IsMember name family key →
      (∀ r ∈ before, ∀ f k, r.spec = .family f → ¬ IsMember name f k) →
      Resolves rules name (some (.member family key, rule))
  /-- There is no such rule. -/
  | unknown : (∀ r ∈ rules, r.spec ≠ .exact name) →
      (∀ r ∈ rules, ∀ f k, r.spec = .family f → ¬ IsMember name f k) → Resolves rules name none

/-- The second list is the first one with rules for families between its rules. -/
inductive WithFamilies : List FieldRule → List FieldRule → Prop
  /-- Nothing. -/
  | nil : WithFamilies [] []
  /-- A rule that was there before. -/
  | keep {rules rules' : List FieldRule} (rule : FieldRule) :
      WithFamilies rules rules' → WithFamilies (rule :: rules) (rule :: rules')
  /-- One more rule for a family. -/
  | insert {rules rules' : List FieldRule} (family : String) (operators : List Operator) :
      WithFamilies rules rules' → WithFamilies rules (⟨.family family, operators⟩ :: rules')

variable {name : String} {field : Field} {rule : FieldRule} {rules rules' : List FieldRule}
  {r : Option (Field × FieldRule)} {x : Field × FieldRule}

/-! ### One rule -/

theorem FieldSpec.resolve?_exact_eq_some_iff {n : String} :
    (FieldSpec.exact n).resolve? name = some field ↔ n = name ∧ field = .named name := by
  simp only [resolve?, Option.ite_none_right_eq_some, beq_iff_eq, Option.some.injEq]
  exact and_congr_right fun _ => eq_comm

theorem FieldSpec.resolve?_family_eq_some_iff {f : String} :
    (FieldSpec.family f).resolve? name = some field ↔
      ∃ key, IsMember name f key ∧ field = .member f key := by
  rw [resolve?]
  constructor
  · intro h
    split at h
    · rename_i c key hkey
      refine ⟨_, ⟨?_, ?_⟩, (Option.some.inj h).symm⟩
      · intro hnil
        simpa using congrArg String.toList hnil
      · apply String.toList_injective
        rw [isPrefixOf?_eq_some_iff.1 hkey]
        simp
    · cases h
  · rintro ⟨key, ⟨hkey, rfl⟩, rfl⟩
    obtain ⟨c, k, hck⟩ := List.exists_cons_of_ne_nil (mt String.toList_eq_nil_iff.1 hkey)
    have hbegins : (f.toList ++ ['.']).isPrefixOf? (f ++ "." ++ key).toList = some (c :: k) := by
      rw [isPrefixOf?_eq_some_iff, ← hck]
      simp
    have hofList : String.ofList (c :: k) = key := by rw [← hck, String.ofList_toList]
    simp only [hbegins, hofList]

/-- What a name denotes under a rule for exact names, or under a rule for a family; nothing under a
rule of the other sort. -/
def FieldRule.ofSort? (exact : Bool) (name : String) (rule : FieldRule) :
    Option (Field × FieldRule) :=
  if rule.spec.isExact = exact then (rule.spec.resolve? name).map (·, rule) else none

namespace FieldRule

theorem ofSort?_eq_none {exact : Bool} (h : rule.spec.isExact ≠ exact) :
    rule.ofSort? exact name = none := if_neg h

theorem ofSort?_true_eq_some_iff :
    rule.ofSort? true name = some x ↔ rule.spec = .exact name ∧ x = (.named name, rule) := by
  obtain ⟨spec, operators⟩ := rule
  cases spec with
  | exact n =>
    simp only [ofSort?, FieldSpec.isExact, if_true, Option.map_eq_some_iff,
      FieldSpec.resolve?_exact_eq_some_iff, FieldSpec.exact.injEq]
    grind
  | family f => simp [ofSort?, FieldSpec.isExact]

theorem ofSort?_false_eq_some_iff :
    rule.ofSort? false name = some x ↔
      ∃ f key, rule.spec = .family f ∧ IsMember name f key ∧ x = (.member f key, rule) := by
  obtain ⟨spec, operators⟩ := rule
  cases spec with
  | exact n => simp [ofSort?, FieldSpec.isExact]
  | family f =>
    simp only [ofSort?, FieldSpec.isExact, if_true, Option.map_eq_some_iff,
      FieldSpec.resolve?_family_eq_some_iff, FieldSpec.family.injEq]
    grind

theorem ofSort?_true_eq_none_iff : rule.ofSort? true name = none ↔ rule.spec ≠ .exact name := by
  simp [Option.eq_none_iff_forall_ne_some, ofSort?_true_eq_some_iff]

theorem ofSort?_false_eq_none_iff :
    rule.ofSort? false name = none ↔ ∀ f k, rule.spec = .family f → ¬ IsMember name f k := by
  rw [Option.eq_none_iff_forall_ne_some]
  constructor
  · intro h f k hspec hmember
    exact h _ (ofSort?_false_eq_some_iff.2 ⟨f, k, hspec, hmember, rfl⟩)
  · intro h x hx
    obtain ⟨f, k, hspec, hmember, -⟩ := ofSort?_false_eq_some_iff.1 hx
    exact h f k hspec hmember

end FieldRule

/-! ### Lists of rules -/

theorem findSome?_filter {α β : Type} (p : α → Bool) (f : α → Option β) (l : List α) :
    (l.filter p).findSome? f = l.findSome? fun a => if p a then f a else none := by
  induction l with
  | nil => rfl
  | cons a l ih => by_cases h : p a <;> simp [h, List.findSome?_cons, ih]

theorem findSome?_true_eq_some_iff :
    rules.findSome? (FieldRule.ofSort? true name) = some x ↔
      ∃ before rule after, rules = before ++ rule :: after ∧
        (rule.spec = .exact name ∧ x = (.named name, rule)) ∧
        ∀ r ∈ before, r.spec ≠ .exact name := by
  simp only [List.findSome?_eq_some_iff, FieldRule.ofSort?_true_eq_some_iff,
    FieldRule.ofSort?_true_eq_none_iff]

theorem findSome?_true_eq_none_iff :
    rules.findSome? (FieldRule.ofSort? true name) = none ↔ ∀ r ∈ rules, r.spec ≠ .exact name := by
  simp only [List.findSome?_eq_none_iff, FieldRule.ofSort?_true_eq_none_iff]

theorem findSome?_false_eq_some_iff :
    rules.findSome? (FieldRule.ofSort? false name) = some x ↔
      ∃ before rule after, rules = before ++ rule :: after ∧
        (∃ f key, rule.spec = .family f ∧ IsMember name f key ∧ x = (.member f key, rule)) ∧
        ∀ r ∈ before, ∀ f k, r.spec = .family f → ¬ IsMember name f k := by
  simp only [List.findSome?_eq_some_iff, FieldRule.ofSort?_false_eq_some_iff,
    FieldRule.ofSort?_false_eq_none_iff]

theorem findSome?_false_eq_none_iff :
    rules.findSome? (FieldRule.ofSort? false name) = none ↔
      ∀ r ∈ rules, ∀ f k, r.spec = .family f → ¬ IsMember name f k := by
  simp only [List.findSome?_eq_none_iff, FieldRule.ofSort?_false_eq_none_iff]

theorem findSome?_ofSort?_eq_none {exact : Bool} (h : ∀ r ∈ rules, r.spec.isExact ≠ exact) :
    rules.findSome? (FieldRule.ofSort? exact name) = none :=
  List.findSome?_eq_none_iff.2 fun r hr => FieldRule.ofSort?_eq_none (h r hr)

/-- **Families do not change what the exact rules say**, by induction on where they are put. -/
theorem WithFamilies.findSome?_eq (h : WithFamilies rules rules') :
    rules'.findSome? (FieldRule.ofSort? true name) =
      rules.findSome? (FieldRule.ofSort? true name) := by
  induction h with
  | nil => rfl
  | keep rule _ ih => rw [List.findSome?_cons, List.findSome?_cons, ih]
  | insert family operators _ ih =>
    rw [List.findSome?_cons, FieldRule.ofSort?_eq_none (by simp [FieldSpec.isExact])]
    exact ih

/-! ### Schemas -/

namespace Schema

variable {s s' : Schema}

/-- The exact rules are looked through first, then the families. -/
theorem resolve?_eq (s : Schema) (name : String) :
    s.resolve? name = (s.rules.findSome? (FieldRule.ofSort? true name)).or
      (s.rules.findSome? (FieldRule.ofSort? false name)) := by
  rw [resolve?, lookupOrder, List.findSome?_append, findSome?_filter, findSome?_filter]
  simp only [Bool.not_eq_true']
  rfl

/-- **Names are resolved as the order of the rules says.** -/
theorem resolve?_eq_iff : s.resolve? name = r ↔ Resolves s.rules name r := by
  rw [resolve?_eq]
  constructor
  · rintro rfl
    cases hexact : s.rules.findSome? (FieldRule.ofSort? true name) with
    | some x =>
      obtain ⟨_, _, _, hrules, ⟨hspec, rfl⟩, hbefore⟩ := findSome?_true_eq_some_iff.1 hexact
      exact .exact hrules hspec hbefore
    | none =>
      have hnone := findSome?_true_eq_none_iff.1 hexact
      rw [Option.none_or]
      cases hfamily : s.rules.findSome? (FieldRule.ofSort? false name) with
      | some x =>
        obtain ⟨_, _, _, hrules, ⟨_, _, hspec, hmember, rfl⟩, hbefore⟩ :=
          findSome?_false_eq_some_iff.1 hfamily
        exact .family hnone hrules hspec hmember hbefore
      | none => exact .unknown hnone (findSome?_false_eq_none_iff.1 hfamily)
  · intro h
    cases h with
    | exact hrules hspec hbefore =>
      have hfirst := findSome?_true_eq_some_iff.2 ⟨_, _, _, hrules, ⟨hspec, rfl⟩, hbefore⟩
      rw [hfirst, Option.some_or]
    | family hnone hrules hspec hmember hbefore =>
      rw [findSome?_true_eq_none_iff.2 hnone, Option.none_or]
      exact findSome?_false_eq_some_iff.2
        ⟨_, _, _, hrules, ⟨_, _, hspec, hmember, rfl⟩, hbefore⟩
    | unknown hnone hnone' =>
      rw [findSome?_true_eq_none_iff.2 hnone, Option.none_or]
      exact findSome?_false_eq_none_iff.2 hnone'

/-- A name that has a rule of its own is resolved alike with more families. -/
theorem resolve?_withFamilies (h : WithFamilies s.rules s'.rules)
    (hexact : ∃ rule ∈ s.rules, rule.spec = .exact name) : s'.resolve? name = s.resolve? name := by
  rw [resolve?_eq, resolve?_eq, h.findSome?_eq]
  cases hfirst : s.rules.findSome? (FieldRule.ofSort? true name) with
  | some x => rw [Option.some_or, Option.some_or]
  | none =>
    obtain ⟨rule, hrule, hspec⟩ := hexact
    exact absurd hspec (findSome?_true_eq_none_iff.1 hfirst rule hrule)

/-- Rules of the sort of the deciding one change nothing behind it. -/
theorem resolve?_append {more : List FieldRule} (hrules : s'.rules = s.rules ++ more)
    (h : s.resolve? name = some (field, rule))
    (hmore : ∀ r ∈ more, r.spec.isExact = rule.spec.isExact) :
    s'.resolve? name = some (field, rule) := by
  rw [resolve?_eq] at h
  rw [resolve?_eq, hrules, List.findSome?_append, List.findSome?_append]
  rcases Option.or_eq_some_iff.1 h with hfirst | ⟨hnone, hfirst⟩
  · rw [hfirst, Option.some_or, Option.some_or]
  · -- a family decides, so there is no exact rule behind it either
    obtain ⟨_, _, _, -, ⟨f, key, hspec, -, hx⟩, -⟩ := findSome?_false_eq_some_iff.1 hfirst
    obtain ⟨-, rfl⟩ := Prod.mk.inj hx
    have hexact : ∀ r ∈ more, r.spec.isExact ≠ true := by
      intro r hr
      rw [hmore r hr, hspec]
      exact Bool.false_ne_true
    rw [hnone, findSome?_ofSort?_eq_none hexact, hfirst, Option.none_or, Option.none_or,
      Option.some_or]

/-- **How names are resolved.**  In a schema that is built in any steps a name is resolved by the
first rule for exactly this name, else by the first family that has it as a member, and the field is
written as the name.  A name with a rule of its own is resolved alike if rules for families are put
anywhere; and further steps that add rules of the sort of the deciding one do not change what it has
decided. -/
theorem resolves_build (kind name : String) (steps : List SchemaStep) :
    (∀ r, (build kind steps).resolve? name = r ↔
      Resolves (steps.flatMap SchemaStep.rules) name r) ∧
    (∀ field rule, (build kind steps).resolve? name = some (field, rule) →
      field.display = name) ∧
    (∀ steps', WithFamilies (steps.flatMap SchemaStep.rules) (steps'.flatMap SchemaStep.rules) →
      (∃ rule ∈ steps.flatMap SchemaStep.rules, rule.spec = .exact name) →
      (build kind steps').resolve? name = (build kind steps).resolve? name) ∧
    ∀ field rule more, (build kind steps).resolve? name = some (field, rule) →
      (∀ r ∈ more.flatMap SchemaStep.rules, r.spec.isExact = rule.spec.isExact) →
      (build kind (steps ++ more)).resolve? name = some (field, rule) := by
  refine ⟨fun r => ?_, fun field rule h => display_of_resolve? h, fun steps' h hexact => ?_,
    fun field rule more h hmore => ?_⟩
  · rw [← rules_build kind]
    exact resolve?_eq_iff
  · rw [← rules_build kind, ← rules_build kind] at h
    rw [← rules_build kind] at hexact
    exact resolve?_withFamilies h hexact
  · refine resolve?_append ?_ h hmore
    rw [rules_build, rules_build, List.flatMap_append]

/-- Two rules for `a.b` between families that have it as a member, one of them with a dot in its
name and one without a name; and a family that decides, with families behind it. -/
theorem resolves_build_overlapping :
    let steps : List SchemaStep := [.family "a" [.is], .fields ["x", "a.b"] [.eq],
      .field "a.b" [.like], .family "a.b" [.gt]]
    let steps' : List SchemaStep := [.family "" [.is], .family "a" [.is],
      .fields ["x", "a.b"] [.eq], .family "a" [.neq], .field "a.b" [.like], .family "a.b" [.gt]]
    let more : List SchemaStep := [.family "a.b" [.lt], .family "a" [.lt]]
    WithFamilies (steps.flatMap SchemaStep.rules) (steps'.flatMap SchemaStep.rules) ∧
      (build "any" steps).resolve? "a.b" = some (.named "a.b", ⟨.exact "a.b", [.eq]⟩) ∧
      (build "any" steps').resolve? "a.b" = (build "any" steps).resolve? "a.b" ∧
      (build "any" steps).resolve? "a.b.c" = some (.member "a" "b.c", ⟨.family "a", [.is]⟩) ∧
      (build "any" (steps ++ more)).resolve? "a.b.c" =
        some (.member "a" "b.c", ⟨.family "a", [.is]⟩) := by
  intro steps steps' more
  have hfamilies : WithFamilies (steps.flatMap SchemaStep.rules)
      (steps'.flatMap SchemaStep.rules) :=
    .insert _ _ (.keep _ (.keep _ (.keep _ (.insert _ _ (.keep _ (.keep _ .nil))))))
  have hexact : ∃ rule ∈ steps.flatMap SchemaStep.rules, rule.spec = .exact "a.b" :=
    ⟨⟨.exact "a.b", [.eq]⟩, by decide, rfl⟩
  have hmember : (build "any" steps).resolve? "a.b.c" =
      some (.member "a" "b.c", ⟨.family "a", [.is]⟩) := rfl
  refine ⟨hfamilies, rfl, ?_, hmember, ?_⟩
  · exact (resolves_build "any" "a.b" steps).2.2.1 steps' hfamilies hexact
  · exact (resolves_build "any" "a.b.c" steps).2.2.2 _ _ more hmember (by decide)

end Schema

end FleetQuery
