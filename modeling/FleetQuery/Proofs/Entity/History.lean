import FleetQuery.Proofs.Entity.Kind

/-!
# What was asked before

An entity is asked many things, one after the other, and some of it fails.  If an inspection of an
id gives the same at all times, as it does with a snapshot, nothing of this shows in a later answer:

* `Call.verdict` : the answer to a call when no comparison needs a state;
* `Entity.Faithful` : the details of an entity, if it has them, are what an inspection gives;
* `Entity.Faithful.of_asked` : an entity stays faithful, whatever it is asked and however that ends;
* `Entity.Faithful.answerAll` : a faithful entity answers every call with its verdict;
* `Snapshot.answerAll_eq_map_fresh` : **every call is answered as on a fresh entity.**
-/

namespace FleetQuery

open Answering

variable {S D ι σ : Type}

/-! ### Calls that need no state -/

/-- The answer to a call when the comparisons need no state. -/
def Call.verdict (answer : Comparison → Except QueryError Bool) : Call → Except QueryError Bool
  | is c => answer c
  | filter e => e.verdict answer

theorem Call.answerAll_stateless (answer : Comparison → Except QueryError Bool)
    (calls : List Call) (s : σ) :
    Call.answerAll (Expr.stateless answer) calls s = (calls.map (Call.verdict answer), s) := by
  induction calls with
  | nil => rfl
  | cons call calls ih =>
    have hcall : (call.answer (Expr.stateless answer)).runFrom s = (call.verdict answer, s) := by
      cases call with
      | is c => rfl
      | filter e => exact Expr.runFrom_evaluate_stateless answer e s
    rw [answerAll_cons, hcall, ih, List.map_cons]

/-! ### Faithful entities -/

namespace Entity

variable {view : View S D} {inspect : String → Inspecting ι D} {now : Instant}
  {record : String → Except SourceError D} {summary : S} {x : Entity S D}

/-- The entity is the one with a summary, and its details, if it has them, are those on record. -/
structure Faithful (view : View S D) (record : String → Except SourceError D) (summary : S)
    (x : Entity S D) : Prop where
  /-- The summary is the one that the entity was listed with. -/
  summary_eq : x.summary = summary
  /-- The details are those on record. -/
  details_eq : ∀ d, x.details? = some d → record (view.id summary) = .ok d

theorem faithful_fresh (view : View S D) (record : String → Except SourceError D) (summary : S) :
    Faithful view record summary { summary } :=
  ⟨rfl, fun _ hd => nomatch hd⟩

theorem Faithful.record_eq (h : x.Faithful view record summary)
    (hinspect : ∀ id i, ((inspect id).run.run i).1 = record id) (i : ι) :
    x.record view inspect i = record (view.id summary) := by
  rw [Entity.record]
  cases hdetails : x.details? with
  | none => rw [h.summary_eq, hinspect]
  | some d => rw [h.details_eq d hdetails]

/-- What a comparison does to a faithful entity leaves it faithful, also if the comparison fails
before the details are fetched, while they are fetched, or after that. -/
theorem Faithful.of_asked (h : x.Faithful view record summary)
    (hinspect : ∀ id i, ((inspect id).run.run i).1 = record id) {c : Comparison} {i : ι}
    {run : Except QueryError Bool × Entity S D × ι}
    (hasked : Asked view inspect now c (x, i) run) : run.2.1.Faithful view record summary := by
  cases hasked with
  | quiet _ => exact h
  | failed _ _ _ => exact h
  | @fetched _ _ i' d _ _ hrun =>
    refine ⟨h.summary_eq, fun d' hd' => ?_⟩
    obtain rfl : d = d' := Option.some.inj hd'
    rw [← h.summary_eq, ← hinspect, hrun]

theorem agree_of_faithful (now : Instant)
    (hinspect : ∀ id i, ((inspect id).run.run i).1 = record id) (c : Comparison)
    (s : Entity S D × ι) (u : Unit) (h : s.1.Faithful view record summary) :
    Expr.Agree (fun s _ => s.1.Faithful view record summary)
      (fun s _ => s.1.Faithful view record summary) ((ask view inspect now c).runFrom s)
      ((Expr.stateless (view.answer now summary (record (view.id summary))) c).runFrom u) := by
  obtain ⟨y, i⟩ := s
  have hasked := asked_ask view inspect now c (y, i)
  have hanswer := hasked.answer_eq
  have hfaithful := h.of_asked hinspect hasked
  rw [h.summary_eq, h.record_eq hinspect] at hanswer
  rw [Expr.stateless, ← hanswer]
  exact .of_states _ hfaithful

/-- **A faithful entity answers every call with its verdict** over the summary and the record. -/
theorem Faithful.answerAll (h : x.Faithful view record summary)
    (hinspect : ∀ id i, ((inspect id).run.run i).1 = record id) (calls : List Call) (i : ι) :
    (Call.answerAll (ask view inspect now) calls (x, i)).1 =
      calls.map (Call.verdict (view.answer now summary (record (view.id summary)))) := by
  have hagree := Call.answerAll_agrees (agree_of_faithful now hinspect) calls
    (s := (x, i)) (t := ()) h
  rw [hagree.1, Call.answerAll_stateless]

/-- Every call is answered as it is on an entity that nothing was asked of before. -/
theorem answerAll_eq_map (hinspect : ∀ id i, ((inspect id).run.run i).1 = record id)
    (calls : List Call) (summary : S) (i : ι) :
    (Call.answerAll (ask view inspect now) calls ({ summary }, i)).1 =
      calls.map fun call => ((call.answer (ask view inspect now)).runFrom ({ summary }, i)).1 := by
  have hfresh := faithful_fresh view record summary
  rw [hfresh.answerAll hinspect]
  refine List.map_congr_left fun call _ => ?_
  exact (List.cons.inj (hfresh.answerAll hinspect [call] i)).1.symm

end Entity

/-! ### Snapshots -/

/-- **Answers do not depend on what was asked before**, nor on how often, nor on what failed: of all
the comparisons, allowed or not, and all the filters that an entity of a snapshot is asked one after
the other, each is answered as it is on a fresh entity with the same summary. -/
theorem Snapshot.answerAll_eq_map_fresh (s : Snapshot) (kind : EntityKind) (now : Instant)
    (summary : kind.Summary) (calls : List Call) :
    (Call.answerAll (Entity.ask kind.view (s.inspector.inspect kind) now) calls
      ({ summary }, ())).1 =
    calls.map fun call =>
      ((call.answer (Entity.ask kind.view (s.inspector.inspect kind) now)).runFrom
        ({ summary }, ())).1 :=
  Entity.answerAll_eq_map (s.inspect_eq kind) calls summary ()

end FleetQuery
