import FleetQuery.Entity.Scan
import FleetQuery.Proofs.Entity.Answer
import FleetQuery.Proofs.Filter.Schema
import FleetQuery.Proofs.Match.Live

/-!
# Fields that filters may use

The schema of a kind of entity says which fields and operators filters may use, its view says
where the value of a field comes from, and the sort of the value decides which operators it
knows.  `View.Honest` says that the three agree; containers and images are honest, so an accepted
filter never meets a field that does not exist or a value that does not know the operator
(`View.isPatternError_or_source_of_holdsAt`).
-/

namespace FleetQuery

open Answering

variable {S D ι κ : Type}

/-! ### Honest views -/

namespace View

/-- Whatever entity it is asked of, the value of the field knows the operator. -/
def Serves (view : View S D) (field : Field) (op : Operator) : Prop :=
  match view.reading? field with
  | none => False
  | some (.summary live) => ∀ summary, op ∈ (live summary).operators
  | some (.details live) => ∀ d, op ∈ (live d).operators

/-- The view serves whatever the rule allows. -/
def Honours (view : View S D) (rule : FieldRule) : Prop :=
  ∀ field, rule.spec.Denotes field → ∀ op ∈ rule.operators, view.Serves field op

/-- The view serves whatever its schema allows. -/
def Honest (view : View S D) : Prop := ∀ rule ∈ view.schema.rules, view.Honours rule

variable {view : View S D} {c : Comparison} {err : QueryError}

theorem Honest.serves_of_accepts (hview : view.Honest) (h : view.schema.Accepts c) :
    view.Serves c.field c.op := by
  obtain ⟨name, rule, hresolve, hallows⟩ := h
  obtain ⟨hrule, hdenotes⟩ := Schema.exists_rule_of_resolve? hresolve
  exact hview rule hrule c.field hdenotes c.op (List.contains_iff_mem.1 hallows)

theorem honours_summary {name : String} {operators : List Operator} {live : S → Live}
    (hreading : view.reading? (.named name) = some (.summary live))
    (hops : ∀ summary, operators ⊆ (live summary).operators) :
    view.Honours ⟨.exact name, operators⟩ := by
  rintro field rfl op hop
  rw [Serves, hreading]
  exact fun summary => hops summary hop

theorem honours_details {name : String} {operators : List Operator} {live : D → Live}
    (hreading : view.reading? (.named name) = some (.details live))
    (hops : ∀ d, operators ⊆ (live d).operators) : view.Honours ⟨.exact name, operators⟩ := by
  rintro field rfl op hop
  rw [Serves, hreading]
  exact fun d => hops d hop

theorem honours_family {family : String} {operators : List Operator} {live : String → D → Live}
    (hreading : ∀ key, view.reading? (.member family key) = some (.details (live key)))
    (hops : ∀ key d, operators ⊆ (live key d).operators) :
    view.Honours ⟨.family family, operators⟩ := by
  rintro field ⟨key, rfl⟩ op hop
  rw [Serves, hreading]
  exact fun d => hops key d hop

/-- A comparison that is served fails for its pattern, or with the record if it needs it. -/
theorem Serves.isPatternError_or_record (h : view.Serves c.field c.op) {now : Instant}
    {summary : S} {record : Except SourceError D}
    (herr : view.answer now summary record c = .error err) :
    err.isPatternError = true ∨
      view.inDetails c.field = true ∧ ∃ e, record = .error e ∧ err = .source e := by
  revert h herr
  rw [Serves, answer, inDetails]
  cases view.reading? c.field with
  | none => exact fun h _ => h.elim
  | some reading =>
    cases reading with
    | summary live => exact fun h herr => .inl (Live.isPatternError_of_compare (h summary) herr)
    | details live =>
      cases record with
      | ok d => exact fun h herr => .inl (Live.isPatternError_of_compare (h d) herr)
      | error e => exact fun _ herr => .inr ⟨rfl, e, rfl, (Except.error.inj herr).symm⟩

/-- **An accepted filter fails for one of its patterns, or with the source.** -/
theorem Honest.isPatternError_or_source (hview : view.Honest) {input : String} {e : Expr}
    (he : parseFilter view.schema input = .ok e) {inspect : String → Inspecting ι D}
    {clock : Clock κ} (s : κ × Entity S D × ι)
    (herr : ((Entity.holdsAt view inspect clock e).runFrom s).1 = .error err) :
    err.isPatternError = true ∨ ∃ e, err = .source e := by
  refine Expr.evaluate_error (P := fun err => err.isPatternError = true ∨ ∃ e, err = .source e)
    ?_ herr
  rintro c hc ⟨k, x, i⟩ err herr
  rw [Entity.runFrom_askAt, (Entity.asked_ask ..).answer_eq] at herr
  have hserves := hview.serves_of_accepts (accepts_of_mem_leaves he hc)
  exact (hserves.isPatternError_or_record herr).imp_right fun ⟨_, e, _, herr⟩ => ⟨e, herr⟩

end View

/-! ### Containers and images -/

theorem Container.exitCode_operators (code : Int) :
    [.eq, .gt] ⊆ (Container.exitCode code).operators := by
  rw [Container.exitCode]
  split <;> simp [Live.operators, Operator.all]

theorem Container.honest : Container.view.Honest := by
  intro rule hrule
  simp only [Container.view, Container.schema, Schema.rules_fields, Schema.rules_family,
    Schema.rules_empty, List.map_cons, List.map_nil, List.cons_append, List.nil_append,
    List.mem_cons, List.not_mem_nil, or_false] at hrule
  rcases hrule with rfl | rfl | rfl | rfl | rfl | rfl | rfl | rfl | rfl | rfl | rfl | rfl
  -- running, paused and restarting
  · exact View.honours_details rfl fun d => by simp [Live.operators, Operator.all]
  · exact View.honours_details rfl fun d => by simp [Live.operators, Operator.all]
  · exact View.honours_details rfl fun d => by simp [Live.operators, Operator.all]
  -- label
  · exact View.honours_family (fun key => rfl) fun key d => by simp [Live.operators]
  -- id, name, image, cmd and entrypoint
  · exact View.honours_summary rfl fun s => by simp [Live.operators]
  · exact View.honours_details rfl fun d => by simp [Live.operators]
  · exact View.honours_summary rfl fun s => by simp [Live.operators]
  · exact View.honours_details rfl fun d => by simp [Live.operators]
  · exact View.honours_details rfl fun d => by simp [Live.operators]
  -- exit, created and exited
  · exact View.honours_details rfl fun d => Container.exitCode_operators d.state.exitCode
  · exact View.honours_details rfl fun d => by simp [Live.operators]
  · exact View.honours_details rfl fun d => by simp [Live.operators]

theorem Image.honest : Image.view.Honest := by
  intro rule hrule
  simp only [Image.view, Image.schema, Schema.rules_fields, Schema.rules_family,
    Schema.rules_empty, List.map_cons, List.map_nil, List.cons_append, List.nil_append,
    List.mem_cons, List.not_mem_nil, or_false] at hrule
  rcases hrule with rfl | rfl | rfl | rfl | rfl | rfl | rfl | rfl | rfl | rfl
  -- id, cmd, entrypoint, comment, author, arch and docker_version
  · exact View.honours_summary rfl fun s => by simp [Live.operators]
  · exact View.honours_details rfl fun d => by simp [Live.operators]
  · exact View.honours_details rfl fun d => by simp [Live.operators]
  · exact View.honours_details rfl fun d => by simp [Live.operators]
  · exact View.honours_details rfl fun d => by simp [Live.operators]
  · exact View.honours_details rfl fun d => by simp [Live.operators]
  · exact View.honours_details rfl fun d => by simp [Live.operators]
  -- label
  · exact View.honours_family (fun key => rfl) fun key d => by simp [Live.operators]
  -- size and created
  · exact View.honours_summary rfl fun s => by simp [Live.operators]
  · exact View.honours_details rfl fun d => by simp [Live.operators]

/-! ### Accepted filters -/

theorem Matcher.exists_of_parse {schema : Schema} {input : String} {m : Matcher}
    (h : Matcher.parse schema input = .ok m) :
    ∃ e, parseFilter schema input = .ok e ∧ m = ⟨input, e⟩ := by
  rw [parse] at h
  cases he : parseFilter schema input with
  | error err => rw [he] at h; cases h
  | ok e => rw [he] at h; exact ⟨e, rfl, (Except.ok.inj h).symm⟩

/-- A failure is one of those that an accepted filter may meet: a literal that is none, a pattern
that is no number, or a source that does not answer. -/
def QueryError.Permitted : QueryError → Prop
  | literal _ => True
  | comparison (.notNumeric _) => True
  | source _ => True
  | _ => False

theorem QueryError.permitted_iff {err : QueryError} :
    err.Permitted ↔ err.isPatternError = true ∨ ∃ e, err = .source e := by
  cases err with
  | comparison e => cases e <;> simp [Permitted, isPatternError]
  | filter | literal | invalidField | source => simp [Permitted, isPatternError]

/-- **What accepted filters can fail with**: whatever the entity, the inspector and the clock, a
filter that the schema of containers or of images accepts never meets an unknown field or an
operator that a value does not know. -/
theorem Matcher.permitted_of_parse (inspector : Inspector ι) (clock : Clock κ) (input : String)
    (m : Matcher) :
    (Matcher.parse Container.schema input = .ok m →
      ∀ (s : κ × Entity ContainerSummary ContainerDetails × ι) (err : QueryError),
        ((Entity.holdsAt Container.view inspector.inspectContainer clock m.expr).runFrom s).1 =
          .error err → err.Permitted) ∧
    (Matcher.parse Image.schema input = .ok m →
      ∀ (s : κ × Entity ImageSummary ImageDetails × ι) (err : QueryError),
        ((Entity.holdsAt Image.view inspector.inspectImage clock m.expr).runFrom s).1 =
          .error err → err.Permitted) := by
  constructor
  · intro hm s err herr
    obtain ⟨e, he, rfl⟩ := Matcher.exists_of_parse hm
    exact QueryError.permitted_iff.2 (Container.honest.isPatternError_or_source he s herr)
  · intro hm s err herr
    obtain ⟨e, he, rfl⟩ := Matcher.exists_of_parse hm
    exact QueryError.permitted_iff.2 (Image.honest.isPatternError_or_source he s herr)

/-- The exit code of a container is compared with a word, and the details of an image are
missing. -/
theorem Matcher.permitted_of_exit_label :
    let inspector : Inspector Unit :=
      Snapshot.inspector { containerDetails := [{ id := "c", state := { exitCode := 1 } }] }
    let clock : Clock Unit := fun u => (⟨⟨2024, 1, 15, by decide⟩, 50400, 0, by decide⟩, u)
    ∃ m m' err err',
      Matcher.parse Container.schema "exit=x" = .ok m ∧
      ((Entity.holdsAt Container.view inspector.inspectContainer clock m.expr).runFrom
        ((), { summary := { id := "c" } }, ())).1 = .error err ∧ err.Permitted ∧
      Matcher.parse Image.schema "label.env" = .ok m' ∧
      ((Entity.holdsAt Image.view inspector.inspectImage clock m'.expr).runFrom
        ((), { summary := { id := "i" } }, ())).1 = .error err' ∧ err'.Permitted := by
  intro inspector clock
  have hm : Matcher.parse Container.schema "exit=x" =
      .ok ⟨"exit=x", .leaf ⟨.named "exit", .eq, "x"⟩⟩ := rfl
  have hm' : Matcher.parse Image.schema "label.env" =
      .ok ⟨"label.env", .leaf ⟨.member "label" "env", .is, ""⟩⟩ := rfl
  refine ⟨_, _, .comparison (.notNumeric "x"), .source (.notFound .image "i"), hm, rfl, ?_, hm',
    rfl, ?_⟩
  · exact (Matcher.permitted_of_parse inspector clock _ _).1 hm
      ((), { summary := { id := "c" } }, ()) _ rfl
  · exact (Matcher.permitted_of_parse inspector clock _ _).2 hm'
      ((), { summary := { id := "i" } }, ()) _ rfl

end FleetQuery
