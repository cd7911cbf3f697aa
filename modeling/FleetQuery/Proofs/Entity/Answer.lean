import FleetQuery.Entity.Basic
import FleetQuery.Proofs.Match.Evaluate
import FleetQuery.Proofs.Match.Live

/-!
# What an entity answers

An entity keeps its details once they are fetched, but its answers do not show it:

* `View.answer` : the answer to a comparison as a function of a summary and of what an inspection
  gives;
* `Entity.record` : what reading the details of an entity gives;
* `Entity.Asked` : everything that one comparison can do, and `Entity.asked_ask` that it does
  nothing else;
* `Entity.holds_answer` : the answer to an expression is the verdict over `View.answer`.

The instant of asking need not be the same for all comparisons of an expression: `Entity.holdsAt`
reads a clock anew for each of them, also for those that do not look at it.  Clocks are arbitrary,
so any instants at all can come up where it is looked at.
-/

namespace FleetQuery

open Answering

variable {S D ι κ : Type}

/-- A clock: the instant that it gives next, and the state that it goes on from. -/
abbrev Clock (κ : Type) := κ → Instant × κ

namespace View

/-- The field is read off the details. -/
def inDetails (view : View S D) (field : Field) : Bool :=
  match view.reading? field with
  | some (.details _) => true
  | _ => false

/-- The answer to one comparison, read off a summary and off what an inspection gives. -/
def answer (view : View S D) (now : Instant) (summary : S) (record : Except SourceError D)
    (c : Comparison) : Except QueryError Bool :=
  match view.reading? c.field with
  | none => .error (.invalidField c.field.display)
  | some (.summary live) => (live summary).compare now c.op c.pattern
  | some (.details live) =>
    match record with
    | .ok d => (live d).compare now c.op c.pattern
    | .error err => .error (.source err)

theorem inDetails_iff {view : View S D} {field : Field} :
    view.inDetails field = true ↔ ∃ live, view.reading? field = some (.details live) := by
  rw [inDetails]
  constructor
  · intro h
    split at h
    · exact ⟨_, ‹_›⟩
    · cases h
  · rintro ⟨live, hreading⟩
    rw [hreading]

/-- Answer one comparison off a summary and a record, at the instant that the clock gives. -/
def answerAt (view : View S D) (clock : Clock κ) (summary : S) (record : Except SourceError D)
    (c : Comparison) : Answering κ Bool :=
  ExceptT.mk fun k => (view.answer (clock k).1 summary record c, (clock k).2)

theorem runFrom_answerAt (view : View S D) (clock : Clock κ) (summary : S)
    (record : Except SourceError D) (c : Comparison) (k : κ) :
    (view.answerAt clock summary record c).runFrom k =
      (view.answer (clock k).1 summary record c, (clock k).2) := rfl

theorem answer_error {view : View S D} {c : Comparison} (h : view.inDetails c.field = true)
    (now : Instant) (summary : S) (err : SourceError) :
    view.answer now summary (.error err) c = .error (.source err) := by
  obtain ⟨live, hreading⟩ := inDetails_iff.1 h
  simp only [answer, hreading]

end View

namespace Entity

variable {view : View S D} {inspect : String → Inspecting ι D} {now : Instant} {c : Comparison}

/-- What reading the details gives: those that are kept, or else what an inspection gives now. -/
def record (view : View S D) (inspect : String → Inspecting ι D) (e : Entity S D) (i : ι) :
    Except SourceError D :=
  match e.details? with
  | some d => .ok d
  | none => ((inspect (view.id e.summary)).run.run i).1

theorem record_of_details {e : Entity S D} {d : D} (h : e.details? = some d) (i : ι) :
    e.record view inspect i = .ok d := by
  rw [record, h]

theorem record_of_inspect {e : Entity S D} {i i' : ι} {outcome : Except SourceError D}
    (h : e.details? = none) (hi : (inspect (view.id e.summary)).run.run i = (outcome, i')) :
    e.record view inspect i = outcome := by
  rw [record, h, hi]

/-! ### One comparison -/

/-- What one comparison can do. -/
inductive Asked (view : View S D) (inspect : String → Inspecting ι D) (now : Instant)
    (c : Comparison) : Entity S D × ι → Except QueryError Bool × Entity S D × ι → Prop
  /-- Nothing is inspected: the field does not need it, or the details are there. -/
  | quiet {e : Entity S D} {i : ι} : (view.inDetails c.field = true → e.isInspected = true) →
      Asked view inspect now c (e, i)
        (view.answer now e.summary (e.record view inspect i) c, e, i)
  /-- The details are fetched, and kept. -/
  | fetched {e : Entity S D} {i i' : ι} {d : D} : view.inDetails c.field = true →
      e.details? = none → (inspect (view.id e.summary)).run.run i = (.ok d, i') →
      Asked view inspect now c (e, i)
        (view.answer now e.summary (.ok d) c, { e with details? := some d }, i')
  /-- The details cannot be fetched. -/
  | failed {e : Entity S D} {i i' : ι} {err : SourceError} : view.inDetails c.field = true →
      e.details? = none → (inspect (view.id e.summary)).run.run i = (.error err, i') →
      Asked view inspect now c (e, i) (.error (.source err), e, i')

section WithInspector

variable {α β : Type} {action : ExceptT QueryError (StateT (Entity S D) (StateM ι)) α}
  {next : α → ExceptT QueryError (StateT (Entity S D) (StateM ι)) β}

theorem runFrom_withInspector (e : Entity S D) (i : ι) :
    (withInspector action).runFrom (e, i) =
      (((action.run.run e).run i).1.1, ((action.run.run e).run i).1.2,
        ((action.run.run e).run i).2) := rfl

theorem withInspector_bind :
    withInspector (action >>= next) = withInspector action >>= fun a => withInspector (next a) := by
  refine Answering.ext fun (e, i) => ?_
  rw [runFrom_bind, runFrom_withInspector, runFrom_withInspector, ExceptT.run_bind,
    StateT.run_bind, StateT.run_bind]
  rcases (action.run.run e).run i with ⟨⟨err | a, e'⟩, i'⟩ <;> rfl

theorem runFrom_withInspector_get_bind
    {next : Entity S D → ExceptT QueryError (StateT (Entity S D) (StateM ι)) β} (e : Entity S D)
    (i : ι) :
    (withInspector (get >>= next)).runFrom (e, i) = (withInspector (next e)).runFrom (e, i) := rfl

theorem runFrom_withInspector_lift_bind (inspection : StateM ι α) (e : Entity S D) (i : ι) :
    (withInspector (liftM inspection >>= next)).runFrom (e, i) =
      (withInspector (next (inspection.run i).1)).runFrom (e, (inspection.run i).2) := rfl

end WithInspector

theorem holds_eq_evaluate (view : View S D) (inspect : String → Inspecting ι D) (now : Instant)
    (e : Expr) : holds view inspect now e = e.evaluate (ask view inspect now) :=
  Expr.map_evaluate withInspector (fun _ => rfl) (fun _ _ => withInspector_bind) _ e

theorem runFrom_detailsM (e : Entity S D) (i : ι) :
    (withInspector (detailsM view inspect)).runFrom (e, i) =
      match e.details? with
      | some d => (.ok d, e, i)
      | none =>
        match (inspect (view.id e.summary)).run.run i with
        | (.ok d, i') => (.ok d, { e with details? := some d }, i')
        | (.error err, i') => (.error (.source err), e, i') := by
  obtain ⟨summary, _ | d⟩ := e
  · rw [detailsM, runFrom_withInspector_get_bind]
    dsimp only
    rw [runFrom_withInspector_lift_bind]
    rcases (inspect (view.id summary)).run.run i with ⟨err | d, i'⟩ <;> rfl
  · rfl

theorem runFrom_compare (live : Live) (s : Entity S D × ι) :
    (withInspector (askM.compare (pure now) c live)).runFrom s =
      (live.compare now c.op c.pattern, s) := by
  rw [askM.compare, Live.run_compareM_pure]
  rfl

theorem runFrom_ask_of_not_inDetails (h : view.inDetails c.field = false) (e : Entity S D) (i : ι)
    (record : Except SourceError D) :
    (ask view inspect now c).runFrom (e, i) = (view.answer now e.summary record c, e, i) := by
  rw [ask, askM, View.answer]
  cases hreading : view.reading? c.field with
  | none => rfl
  | some reading =>
    cases reading with
    | summary live => exact runFrom_compare (live e.summary) (e, i)
    | details live =>
      rw [View.inDetails_iff.2 ⟨live, hreading⟩] at h
      cases h

theorem runFrom_ask_of_inDetails (h : view.inDetails c.field = true) (e : Entity S D) (i : ι) :
    (ask view inspect now c).runFrom (e, i) =
      match (withInspector (detailsM view inspect)).runFrom (e, i) with
      | (.ok d, s) => (view.answer now e.summary (.ok d) c, s)
      | (.error err, s) => (.error err, s) := by
  obtain ⟨live, hreading⟩ := View.inDetails_iff.1 h
  simp only [ask, askM, View.answer, hreading]
  rw [withInspector_bind, runFrom_bind]
  rcases (withInspector (detailsM view inspect)).runFrom (e, i) with ⟨err | d, s⟩
  · rfl
  · exact runFrom_compare (live d) s

/-- **One comparison does nothing else.** -/
theorem asked_ask (view : View S D) (inspect : String → Inspecting ι D) (now : Instant)
    (c : Comparison) (s : Entity S D × ι) :
    Asked view inspect now c s ((ask view inspect now c).runFrom s) := by
  obtain ⟨e, i⟩ := s
  cases hin : view.inDetails c.field with
  | false =>
    rw [runFrom_ask_of_not_inDetails hin e i (e.record view inspect i)]
    exact .quiet fun h => by simp [hin] at h
  | true =>
    -- the details that are there are the record, so that this case is quiet too
    rw [runFrom_ask_of_inDetails hin, runFrom_detailsM]
    cases hdetails : e.details? with
    | some d =>
      have hrecord : e.record view inspect i = .ok d := record_of_details hdetails i
      dsimp only
      rw [← hrecord]
      exact .quiet fun _ => by simp [isInspected, hdetails]
    | none =>
      rcases hinspect : (inspect (view.id e.summary)).run.run i with ⟨err | d, i'⟩
      · exact .failed hin hdetails hinspect
      · exact .fetched hin hdetails hinspect

theorem Asked.runFrom_ask {s : Entity S D × ι} {run : Except QueryError Bool × Entity S D × ι}
    (h : Asked view inspect now c s run) : (ask view inspect now c).runFrom s = run := by
  cases h with
  | @quiet e i hinspected =>
    cases hin : view.inDetails c.field with
    | false => exact runFrom_ask_of_not_inDetails hin e i _
    | true =>
      obtain ⟨d, hdetails⟩ := Option.isSome_iff_exists.1 (hinspected hin)
      rw [runFrom_ask_of_inDetails hin, runFrom_detailsM, record_of_details hdetails, hdetails]
  | fetched hin hdetails hinspect =>
    rw [runFrom_ask_of_inDetails hin, runFrom_detailsM, hdetails]
    simp only [hinspect]
  | failed hin hdetails hinspect =>
    rw [runFrom_ask_of_inDetails hin, runFrom_detailsM, hdetails]
    simp only [hinspect]

theorem Asked.answer_eq {e : Entity S D} {i : ι} {run : Except QueryError Bool × Entity S D × ι}
    (h : Asked view inspect now c (e, i) run) :
    run.1 = view.answer now e.summary (e.record view inspect i) c := by
  cases h with
  | quiet _ => rfl
  | fetched _ hdetails hinspect => rw [record_of_inspect hdetails hinspect]
  | failed hin hdetails hinspect =>
    rw [record_of_inspect hdetails hinspect, View.answer_error hin]

theorem Asked.record_eq {e : Entity S D} {i : ι} {run : Except QueryError Bool × Entity S D × ι}
    (h : Asked view inspect now c (e, i) run) {b : Bool} (hb : run.1 = .ok b) :
    run.2.1.summary = e.summary ∧
      run.2.1.record view inspect run.2.2 = e.record view inspect i := by
  cases h with
  | quiet _ => exact ⟨rfl, rfl⟩
  | fetched _ hdetails hinspect => exact ⟨rfl, (record_of_inspect hdetails hinspect).symm⟩
  | failed => cases hb

/-! ### Clocks -/

/-- Answer one comparison at the instant that the clock gives for it. -/
def askAt (view : View S D) (inspect : String → Inspecting ι D) (clock : Clock κ)
    (c : Comparison) : Answering (κ × Entity S D × ι) Bool :=
  ExceptT.mk fun (k, s) =>
    let (now, k) := clock k
    let (answer, s) := (ask view inspect now c).runFrom s
    (answer, k, s)

/-- Match an entity with an expression, reading the clock for every comparison. -/
def holdsAt (view : View S D) (inspect : String → Inspecting ι D) (clock : Clock κ) (e : Expr) :
    Answering (κ × Entity S D × ι) Bool :=
  e.evaluate (askAt view inspect clock)

variable {clock : Clock κ}

theorem runFrom_askAt (c : Comparison) (k : κ) (s : Entity S D × ι) :
    (askAt view inspect clock c).runFrom (k, s) =
      (((ask view inspect (clock k).1 c).runFrom s).1, (clock k).2,
        ((ask view inspect (clock k).1 c).runFrom s).2) := rfl

/-- A clock that stands still might as well not be there. -/
theorem runFrom_holdsAt_still (e : Expr) (k : κ) (s : Entity S D × ι) :
    (holdsAt view inspect (fun k => (now, k)) e).runFrom (k, s) =
      (((holds view inspect now e).runFrom s).1, k, ((holds view inspect now e).runFrom s).2) := by
  have hagree : Expr.Agree (fun t s => t = (k, s)) (fun t s => t = (k, s))
      ((holdsAt view inspect (fun k => (now, k)) e).runFrom (k, s))
      ((holds view inspect now e).runFrom s) := by
    rw [holds_eq_evaluate]
    refine Expr.evaluate_agrees ?_ e rfl
    rintro c _ s rfl
    exact .of_states _ rfl
  exact Prod.ext hagree.answer_eq hagree.final

/-! ### Expressions -/

/-- **The answer to an expression** is that of a reader who has the record from the start, and the
clock moves as it does for that reader. -/
theorem holdsAt_answer (e : Expr) (k : κ) (x : Entity S D) (i : ι) :
    ((holdsAt view inspect clock e).runFrom (k, x, i)).1 =
        ((e.evaluate (view.answerAt clock x.summary (x.record view inspect i))).runFrom k).1 ∧
      ((holdsAt view inspect clock e).runFrom (k, x, i)).2.1 =
        ((e.evaluate (view.answerAt clock x.summary (x.record view inspect i))).runFrom k).2 := by
  -- The record is what it was until an inspection fails, and that ends the evaluation.
  have hagree : Expr.Agree
      (fun s k' => s.1 = k' ∧ s.2.1.summary = x.summary ∧
        s.2.1.record view inspect s.2.2 = x.record view inspect i)
      (fun s k' => s.1 = k')
      ((holdsAt view inspect clock e).runFrom (k, x, i))
      ((e.evaluate (view.answerAt clock x.summary (x.record view inspect i))).runFrom k) := by
    refine Expr.evaluate_agrees ?_ e ⟨rfl, rfl, rfl⟩
    rintro c ⟨k, y, j⟩ _ ⟨rfl, hsummary, hrecord⟩
    have hasked := asked_ask view inspect (clock k).1 c (y, j)
    have hanswer := hasked.answer_eq
    have hkept := fun b => hasked.record_eq (b := b)
    rw [hsummary, hrecord] at hanswer hkept
    rw [runFrom_askAt, View.runFrom_answerAt, ← hanswer]
    revert hkept
    rcases (ask view inspect (clock k).1 c).runFrom (y, j) with ⟨err | b, s'⟩ <;> intro hkept
    · exact .failed rfl
    · exact .answered rfl ⟨rfl, hkept b rfl⟩
  exact ⟨hagree.answer_eq, hagree.final⟩

/-- At one instant, the answer to an expression is a verdict on the summary and the record. -/
theorem holds_answer (e : Expr) (x : Entity S D) (i : ι) :
    ((holds view inspect now e).runFrom (x, i)).1 =
      e.verdict (view.answer now x.summary (x.record view inspect i)) := by
  have hstill : ((holdsAt view inspect (fun u : Unit => (now, u)) e).runFrom ((), x, i)).1 = _ :=
    (holdsAt_answer e () x i).1
  rw [runFrom_holdsAt_still] at hstill
  have hverdict := Expr.runFrom_evaluate_stateless
    (view.answer now x.summary (x.record view inspect i)) e ()
  exact hstill.trans (congrArg Prod.fst hverdict)

end Entity

end FleetQuery
