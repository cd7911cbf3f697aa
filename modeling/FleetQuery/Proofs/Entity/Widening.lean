import FleetQuery.Proofs.Filter.Resolution
import FleetQuery.Proofs.Match.Like
import FleetQuery.Proofs.Snapshot.Record

/-!
# Wider patterns

Whatever a text is, it is like it, and whatever is like a text is like everything that the text is
like.  So `field=p`, `field~p` and `field~q` match more and more if `p` is like `q`, and it does not
matter whether the field is one text, several of them or a label that may be missing.

* `Together` : two runs fail alike, or both succeed with results that are related;
* `Live.compare_widens`, `View.answer_widens` : a live value and an entity under a wider pattern;
* `View.scanAt_together` : if what matches goes on to match, a scan keeps all its ids;
* `EntityKind.takesTexts_iff` : the fields that can be compared with `=` and `~`;
* `Snapshot.widens_texts` : **of `field=p`, `field~p` and `field~q` each is wider than those before
  it**, and their scans succeed together or fail together.

The runs need not be at one instant, since comparisons of texts do not look at the clock.
-/

namespace FleetQuery

open Answering

/-! ### Two runs -/

/-- Both fail, with the same error, or both succeed, with results that are related. -/
inductive Together {α : Type} (R : α → α → Prop) :
    Except QueryError α → Except QueryError α → Prop
  /-- Both fail. -/
  | failed (err : QueryError) : Together R (.error err) (.error err)
  /-- Both succeed. -/
  | succeeded {a b : α} : R a b → Together R (.ok a) (.ok b)

/-- Both fail, with the same error, or the second answer is yes if the first one is. -/
abbrev AnswersTogether : Except QueryError Bool → Except QueryError Bool → Prop :=
  Together fun b c => b = true → c = true

theorem Together.runFrom_bind {α β σ τ : Type} {R : α → α → Prop} {Q : β → β → Prop}
    {x : Answering σ α} {y : Answering τ α} {f : α → Answering σ β} {g : α → Answering τ β}
    {s : σ} {t : τ} (hxy : Together R (x.runFrom s).1 (y.runFrom t).1)
    (hfg : ∀ a b s t, R a b → Together Q ((f a).runFrom s).1 ((g b).runFrom t).1) :
    Together Q ((x >>= f).runFrom s).1 ((y >>= g).runFrom t).1 := by
  rw [Answering.runFrom_bind, Answering.runFrom_bind]
  revert hxy
  rcases x.runFrom s with ⟨err | a, s'⟩ <;> rcases y.runFrom t with ⟨err' | b, t'⟩ <;>
    rintro (_ | hab)
  · exact .failed err
  · exact hfg a b s' t' hab

/-! ### Live values -/

variable {op : Operator} {p q : String}

theorem compareText_widens (hop : op = .eq ∨ op = .like) (h : like p q = true) (v : String) :
    AnswersTogether (compareText v op p) (compareText v .like q) := by
  rcases hop with rfl | rfl
  · refine .succeeded fun hv => ?_
    rwa [eq_of_beq hv]
  · exact .succeeded fun hv => like_trans hv h

theorem compareTexts_widens (hop : op = .eq ∨ op = .like) (h : like p q = true) (vs : List String) :
    AnswersTogether (compareTexts vs op p) (compareTexts vs .like q) := by
  rcases hop with rfl | rfl
  · refine .succeeded fun hvs => ?_
    obtain ⟨v, hv, hvp⟩ := List.any_eq_true.mp hvs
    exact List.any_eq_true.mpr ⟨v, hv, by rwa [eq_of_beq hvp]⟩
  · refine .succeeded fun hvs => ?_
    obtain ⟨v, hv, hvp⟩ := List.any_eq_true.mp hvs
    exact List.any_eq_true.mpr ⟨v, hv, like_trans hvp h⟩

/-- A label that is missing is compared as the empty text. -/
theorem compareLabel_widens (hop : op = .eq ∨ op = .like) (h : like p q = true)
    (v? : Option String) :
    AnswersTogether (compareLabel v? op p) (compareLabel v? .like q) := by
  have htext := compareText_widens hop h (v?.getD "")
  rcases hop with rfl | rfl <;> exact htext

/-- **What is compared with texts is found under a wider pattern.** -/
theorem Live.compare_widens {live : Live} (hlive : .like ∈ live.operators)
    (hop : op = .eq ∨ op = .like) (h : like p q = true) (now now' : Instant) :
    AnswersTogether (live.compare now op p) (live.compare now' .like q) := by
  cases live with
  | flag answer => exact .succeeded id
  | text v => exact compareText_widens hop h v
  | texts vs => exact compareTexts_widens hop h vs
  | label v? => exact compareLabel_widens hop h v?
  | integer v => simp [operators] at hlive
  | size v => simp [operators] at hlive
  | age since? => simp [operators] at hlive

/-! ### Entities and scans -/

namespace View

variable {S D ι κ κ' : Type} {view : View S D} {inspect : String → Inspecting ι D}
  {clock : Clock κ} {clock' : Clock κ'}

theorem answer_widens {field : Field} (hserves : view.Serves field .like)
    (hop : op = .eq ∨ op = .like) (h : like p q = true) (now now' : Instant) (summary : S)
    (record : Except SourceError D) :
    AnswersTogether (view.answer now summary record ⟨field, op, p⟩)
      (view.answer now' summary record ⟨field, .like, q⟩) := by
  rw [Serves] at hserves
  simp only [answer]
  cases hreading : view.reading? field with
  | none =>
    rw [hreading] at hserves
    exact hserves.elim
  | some reading =>
    rw [hreading] at hserves
    cases reading with
    | summary live => exact Live.compare_widens (hserves summary) hop h now now'
    | details live =>
      -- without a record both fail with its error, whatever the patterns
      cases record with
      | error err => exact .failed _
      | ok d => exact Live.compare_widens (hserves d) hop h now now'

theorem matchListedAt_leaf_answer {record : String → Except SourceError D}
    (hinspect : ∀ id i, ((inspect id).run.run i).1 = record id) (c : Comparison) (summary : S)
    (s : κ × ι) :
    ((view.matchListedAt inspect clock (.leaf c) summary).runFrom s).1 =
      view.answer (clock s.1).1 summary (record (view.id summary)) c := by
  have h : ((Entity.holdsAt view inspect clock (.leaf c)).runFrom (s.1, { summary }, s.2)).1 = _ :=
    (Entity.holdsAt_answer (.leaf c) s.1 { summary } s.2).1
  rw [Entity.record, hinspect] at h
  exact h

/-- **If what matches goes on to match, a scan keeps all its ids.** -/
theorem scanAt_together {e f : Expr} {summaries : List S}
    (h : ∀ summary ∈ summaries, ∀ s s',
      AnswersTogether ((view.matchListedAt inspect clock e summary).runFrom s).1
        ((view.matchListedAt inspect clock' f summary).runFrom s').1)
    (s : κ × ι) (s' : κ' × ι) :
    Together List.Sublist ((view.scanAt inspect clock e summaries).runFrom s).1
      ((view.scanAt inspect clock' f summaries).runFrom s').1 := by
  induction summaries generalizing s s' with
  | nil => exact .succeeded (List.Sublist.refl [])
  | cons summary rest ih =>
    obtain ⟨hsummary, hrest⟩ := List.forall_mem_cons.mp h
    -- the two runs go on in states of their own, so `h` is about all states
    rw [scanAt, scanAt]
    refine (hsummary s s').runFrom_bind fun b c t t' hbc => ?_
    refine (ih hrest t t').runFrom_bind fun ids ids' _ _ hids => .succeeded ?_
    cases b with
    | false =>
      cases c with
      | false => exact hids
      | true => exact hids.cons _
    | true =>
      rw [hbc rfl]
      exact hids.cons_cons _

end View

/-! ### Fields for texts -/

namespace EntityKind

variable {kind : EntityKind} {field : Field}

/-- Filters may compare the field with `=` and with `~`. -/
def TakesTexts (kind : EntityKind) (field : Field) : Prop :=
  ∀ op ∈ [.eq, .like], ∀ p, kind.schema.Accepts ⟨field, op, p⟩

/-- The plain fields for texts. -/
def textFields : EntityKind → List String
  | container => ["id", "name", "image", "cmd", "entrypoint"]
  | image => ["id", "cmd", "entrypoint", "comment", "author", "arch", "docker_version"]

theorem spec_of_allows_like {rule : FieldRule} (hrule : rule ∈ kind.schema.rules)
    (hlike : rule.allows .like = true) :
    (∃ name ∈ kind.textFields, rule.spec = .exact name) ∨ rule.spec = .family "label" := by
  revert rule
  cases kind <;> decide

theorem resolve?_textField {name : String} (hname : name ∈ kind.textFields) :
    kind.schema.resolve? name = some (.named name, ⟨.exact name, [.eq, .like]⟩) := by
  revert name
  cases kind <;> decide

theorem dot_notMem_of_isExact {rule : FieldRule} (hrule : rule ∈ kind.schema.rules)
    (hexact : rule.spec.isExact = true) : '.' ∉ rule.spec.display.toList := by
  revert rule
  cases kind <;> decide

theorem resolve?_label {key : String} (hkey : key ≠ "") :
    kind.schema.resolve? ("label" ++ "." ++ key) =
      some (.member "label" key, ⟨.family "label", [.is, .eq, .like]⟩) := by
  have hrules : kind.schema.rules =
      kind.schema.rules.takeWhile (·.spec.isExact) ++ ⟨.family "label", [.is, .eq, .like]⟩ ::
        (kind.schema.rules.dropWhile (·.spec.isExact)).tail := by
    cases kind <;> rfl
  refine Schema.resolve?_eq_iff.mpr (.family ?_ hrules rfl ⟨hkey, rfl⟩ ?_)
  · intro r hr hspec
    refine dot_notMem_of_isExact hr (by rw [hspec]; rfl) ?_
    rw [hspec]
    simp [FieldSpec.display]
  · intro r hr f _ hspec
    have hexact := List.mem_takeWhile_imp hr
    simp [hspec, FieldSpec.isExact] at hexact

theorem takesTexts_iff : kind.TakesTexts field ↔
    (∃ name ∈ kind.textFields, field = .named name) ∨
      ∃ key, key ≠ "" ∧ field = .member "label" key := by
  constructor
  · intro h
    obtain ⟨name, rule, hresolve, hallows⟩ := h .like (by simp) ""
    obtain ⟨hrule, hspec⟩ := Schema.rule_of_resolve? hresolve
    rcases spec_of_allows_like hrule hallows with ⟨n, hn, hexact⟩ | hfamily
    · rw [hexact, FieldSpec.resolve?_exact_eq_some_iff] at hspec
      exact .inl ⟨n, hn, hspec.1 ▸ hspec.2⟩
    · rw [hfamily, FieldSpec.resolve?_family_eq_some_iff] at hspec
      obtain ⟨key, hmember, hfield⟩ := hspec
      exact .inr ⟨key, hmember.1, hfield⟩
  · rintro (⟨name, hname, rfl⟩ | ⟨key, hkey, rfl⟩) op hop p
    · exact ⟨name, _, resolve?_textField hname, List.contains_iff_mem.mpr hop⟩
    · exact ⟨_, _, resolve?_label hkey, List.contains_iff_mem.mpr (List.mem_cons_of_mem _ hop)⟩

end EntityKind

/-! ### Snapshots -/

namespace Snapshot

variable {s : Snapshot} {kind : EntityKind} {field : Field}

/-- The second filter is wider than the first, whatever instants the clocks of the two runs give. -/
structure Widens (s : Snapshot) (kind : EntityKind) (e f : Expr) : Prop where
  /-- What is listed and matches the first filter matches the second, or both fail. -/
  entities : ∀ {κ κ' : Type} (clock : Clock κ) (clock' : Clock κ') (k : κ) (k' : κ'),
    ∀ summary ∈ s.listed kind,
      AnswersTogether
        ((kind.view.matchListedAt (s.inspector.inspect kind) clock e summary).runFrom (k, ())).1
        ((kind.view.matchListedAt (s.inspector.inspect kind) clock' f summary).runFrom (k', ())).1
  /-- The ids for the first filter are some of those for the second, in order, or both fail. -/
  scansAt : ∀ {κ κ' : Type} (clock : Clock κ) (clock' : Clock κ') (k : κ) (k' : κ'),
    Together List.Sublist ((scanAt s.inspector kind clock e).runFrom (k, ())).1
      ((scanAt s.inspector kind clock' f).runFrom (k', ())).1
  /-- So it is with clocks that stand still. -/
  scans : ∀ now now', Together List.Sublist (s.scan kind now e) (s.scan kind now' f)

/-- A snapshot lists the same at all times, so its scans keep their ids if what is listed goes on
to match. -/
theorem widens_of_entities {e f : Expr}
    (h : ∀ {κ κ' : Type} (clock : Clock κ) (clock' : Clock κ') (t : κ × Unit) (t' : κ' × Unit),
      ∀ summary ∈ s.listed kind,
        AnswersTogether
          ((kind.view.matchListedAt (s.inspector.inspect kind) clock e summary).runFrom t).1
          ((kind.view.matchListedAt (s.inspector.inspect kind) clock' f summary).runFrom t').1) :
    s.Widens kind e f := by
  have hscansAt : ∀ {κ κ' : Type} (clock : Clock κ) (clock' : Clock κ') (k : κ) (k' : κ'),
      Together List.Sublist ((scanAt s.inspector kind clock e).runFrom (k, ())).1
        ((scanAt s.inspector kind clock' f).runFrom (k', ())).1 := by
    intro κ κ' clock clock' k k'
    rw [scanAt, scanAt, inspector_list]
    refine Together.runFrom_bind (R := fun a b => a = s.listed kind ∧ b = s.listed kind)
      (.succeeded ⟨rfl, rfl⟩) ?_
    rintro _ _ t t' ⟨rfl, rfl⟩
    exact View.scanAt_together (fun summary hsummary t t' => h clock clock' t t' summary hsummary)
      t t'
  refine ⟨fun clock clock' k k' => h clock clock' (k, ()) (k', ()), hscansAt, ?_⟩
  intro now now'
  have hstill := hscansAt (fun k : Unit => (now, k)) (fun k : Unit => (now', k)) () ()
  rw [runFrom_scanAt_still, runFrom_scanAt_still] at hstill
  exact hstill

/-- **A wider pattern widens a filter of one comparison.** -/
theorem widens_like (hfield : kind.TakesTexts field) (hop : op = .eq ∨ op = .like)
    (h : like p q = true) :
    s.Widens kind (.leaf ⟨field, op, p⟩) (.leaf ⟨field, .like, q⟩) := by
  refine widens_of_entities fun clock clock' t t' summary _ => ?_
  rw [View.matchListedAt_leaf_answer (s.inspect_eq kind),
    View.matchListedAt_leaf_answer (s.inspect_eq kind)]
  have haccepts := hfield .like (by simp) q
  have hserves := kind.honest_view.serves_of_accepts (kind.schema_view ▸ haccepts)
  exact View.answer_widens hserves hop h _ _ summary _

/-- **Of `field=p`, `field~p` and `field~q` each is wider than those before it**, if `p` is like
`q`. -/
theorem widens_texts (s : Snapshot) (kind : EntityKind) (field : Field) (p q : String)
    (hfield : kind.TakesTexts field) (h : like p q = true) :
    [Expr.leaf ⟨field, .eq, p⟩, .leaf ⟨field, .like, p⟩, .leaf ⟨field, .like, q⟩].Pairwise
      (s.Widens kind) := by
  refine .cons ?_ (.cons ?_ (List.pairwise_singleton _ _))
  · simp only [List.forall_mem_cons]
    refine ⟨widens_like hfield (.inl rfl) (like_refl p), widens_like hfield (.inl rfl) h, ?_⟩
    exact List.forall_mem_nil _
  · simp only [List.forall_mem_cons]
    exact ⟨widens_like hfield (.inr rfl) h, List.forall_mem_nil _⟩

/-- A label has the pattern, has it in it, has something shorter in it, or is missing. -/
theorem widens_texts_label :
    let details (id env : String) : ContainerDetails :=
      { id, config := { labels? := some ⟨[("env", env)], by simp⟩ } }
    let s : Snapshot :=
      { containers := [{ id := "a" }, { id := "b" }, { id := "c" }, { id := "d" }],
        containerDetails :=
          [details "a" "prod", details "b" "PRE-PROD", details "c" "Profile", { id := "d" }] }
    let now : Instant := ⟨⟨2024, 1, 15, by decide⟩, 50400, 0, by decide⟩
    let field : Field := .member "label" "env"
    s.scan .container now (.leaf ⟨field, .eq, "prod"⟩) = .ok ["a"] ∧
      s.scan .container now (.leaf ⟨field, .like, "prod"⟩) = .ok ["a", "b"] ∧
      s.scan .container now (.leaf ⟨field, .like, "PRO"⟩) = .ok ["a", "b", "c"] ∧
      EntityKind.container.TakesTexts field ∧ like "prod" "PRO" = true ∧
      [Expr.leaf ⟨field, .eq, "prod"⟩, .leaf ⟨field, .like, "prod"⟩,
        .leaf ⟨field, .like, "PRO"⟩].Pairwise (s.Widens .container) := by
  intro details s now field
  have hfield : EntityKind.container.TakesTexts field :=
    EntityKind.takesTexts_iff.mpr (.inr ⟨"env", by decide, rfl⟩)
  have hlike : like "prod" "PRO" = true := by decide
  refine ⟨?_, ?_, ?_, hfield, hlike, widens_texts s .container field "prod" "PRO" hfield hlike⟩
  all_goals
    subst details s now field
    decide +kernel

end Snapshot

end FleetQuery
