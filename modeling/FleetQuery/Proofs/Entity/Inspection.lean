import FleetQuery.Proofs.Entity.Answer

/-!
# Inspections of one entity

How often an entity is inspected, whatever is asked of it, in whatever order, and whatever the
inspector and the clock do:

* `logged` : an inspector that also writes down what every inspection gave;
* `Entity.Effect` : everything that one call can do to an entity, its inspector and the log;
* `Entity.Accounts` : the accounts of an entity, among them that at most one inspection succeeds,
  that all others failed, and that nothing is inspected after the one that succeeded;
* `Entity.accounts_answerAll` : **the accounts are in order after any sequence of calls.**

The invariant behind them is `Entity.Balanced`: the log is a number of failures, followed by the
details of the entity if it has them.
-/

namespace FleetQuery

open Answering

variable {S D ι κ : Type}

/-- What inspections gave, the first one first. -/
abbrev Outcomes (D : Type) := List (Except SourceError D)

/-- Inspect, and write down what came of it. -/
def logged (inspect : String → Inspecting ι D) (id : String) : Inspecting (ι × Outcomes D) D :=
  ExceptT.mk fun (i, log) =>
    let (outcome, i) := (inspect id).run.run i
    (outcome, i, log ++ [outcome])

theorem run_logged (inspect : String → Inspecting ι D) (id : String) (i : ι) (log : Outcomes D) :
    (logged inspect id).run.run (i, log) =
      (((inspect id).run.run i).1, ((inspect id).run.run i).2,
        log ++ [((inspect id).run.run i).1]) := rfl

theorem exists_of_run_logged {inspect : String → Inspecting ι D} {id : String} {i : ι}
    {log : Outcomes D} {outcome : Except SourceError D} {s : ι × Outcomes D}
    (h : (logged inspect id).run.run (i, log) = (outcome, s)) :
    ∃ i', (inspect id).run.run i = (outcome, i') ∧ s = (i', log ++ [outcome]) := by
  obtain ⟨rfl, rfl⟩ := Prod.mk.inj h
  exact ⟨_, rfl, rfl⟩

namespace Entity

variable {view : View S D} {inspect : String → Inspecting ι D} {clock : Clock κ}

/-! ### One call -/

/-- What one call can do to an entity, its inspector and the log. -/
inductive Effect (view : View S D) (inspect : String → Inspecting ι D) :
    κ × Entity S D × ι × Outcomes D →
      Except QueryError Bool × κ × Entity S D × ι × Outcomes D → Prop
  /-- Nothing was inspected. -/
  | quiet {k k' : κ} {x : Entity S D} {i : ι} {log : Outcomes D}
      {answer : Except QueryError Bool} :
      Effect view inspect (k, x, i, log) (answer, k', x, i, log)
  /-- The entity was inspected once, and has kept the details. -/
  | fetched {k k' : κ} {x : Entity S D} {i i' : ι} {log : Outcomes D}
      {answer : Except QueryError Bool} {d : D} : x.details? = none →
      (inspect (view.id x.summary)).run.run i = (.ok d, i') →
      Effect view inspect (k, x, i, log)
        (answer, k', { x with details? := some d }, i', log ++ [.ok d])
  /-- The entity was inspected once, in vain: the call fails with what the inspection failed with,
  and the entity is as it was. -/
  | failed {k k' : κ} {x : Entity S D} {i i' : ι} {log : Outcomes D} {err : SourceError} :
      x.details? = none → (inspect (view.id x.summary)).run.run i = (.error err, i') →
      Effect view inspect (k, x, i, log) (.error (.source err), k', x, i', log ++ [.error err])

theorem effect_askAt (c : Comparison) (s : κ × Entity S D × ι × Outcomes D) :
    Effect view inspect s ((askAt view (logged inspect) clock c).runFrom s) := by
  obtain ⟨k, x, i, log⟩ := s
  have hasked := asked_ask view (logged inspect) (clock k).1 c (x, i, log)
  rw [runFrom_askAt]
  revert hasked
  generalize (ask view (logged inspect) (clock k).1 c).runFrom (x, i, log) = run
  intro hasked
  cases hasked with
  | quiet _ => exact .quiet
  | fetched _ hdetails hinspect =>
    obtain ⟨i', hi, rfl⟩ := exists_of_run_logged hinspect
    exact .fetched hdetails hi
  | failed _ hdetails hinspect =>
    obtain ⟨i', hi, rfl⟩ := exists_of_run_logged hinspect
    exact .failed hdetails hi

/-- After a call that fetched the details, nothing is left to inspect. -/
theorem Effect.closed :
    Expr.Closed (Effect (κ := κ) view inspect) := by
  constructor
  · intro s s' b b' h
    cases h with
    | quiet => exact .quiet
    | fetched hdetails hi => exact .fetched hdetails hi
  · intro s s' b run h hrun
    cases h with
    | quiet =>
      cases hrun with
      | quiet => exact .quiet
      | fetched hdetails hi => exact .fetched hdetails hi
      | failed hdetails hi => exact .failed hdetails hi
    | fetched hdetails hi =>
      -- the run goes on with the details there, so it cannot inspect again
      cases hrun with
      | quiet => exact .fetched hdetails hi
      | fetched hsome _ => cases hsome
      | failed hsome _ => cases hsome

theorem effect_answer (call : Call) (s : κ × Entity S D × ι × Outcomes D) :
    Effect view inspect s ((call.answer (askAt view (logged inspect) clock)).runFrom s) := by
  obtain ⟨e, he⟩ := call.exists_answer_eq_evaluate
  rw [he]
  exact Expr.evaluate_invariant Effect.closed (fun c _ s => effect_askAt c s) s

/-! ### The balance -/

/-- The log is a number of failures, followed by the details of the entity if it has them. -/
def Balanced (x : Entity S D) (log : Outcomes D) : Prop :=
  ∃ errs : List SourceError, log = errs.map .error ++ x.details?.toList.map .ok

theorem Balanced.of_effect {k : κ} {x : Entity S D} {i : ι} {log : Outcomes D}
    {run : Except QueryError Bool × κ × Entity S D × ι × Outcomes D} (hx : x.Balanced log)
    (h : Effect view inspect (k, x, i, log) run) :
    run.2.2.1.summary = x.summary ∧ run.2.2.1.Balanced run.2.2.2.2 := by
  obtain ⟨errs, hlog⟩ := hx
  cases h with
  | quiet => exact ⟨rfl, errs, hlog⟩
  | fetched hdetails hi =>
    rw [hdetails] at hlog
    exact ⟨rfl, errs, by simpa using hlog⟩
  | @failed _ _ _ _ _ _ err hdetails hi =>
    -- without details the log holds failures only, and one more is added to them
    rw [hdetails] at hlog
    refine ⟨rfl, errs ++ [err], ?_⟩
    simp [hlog, hdetails]

theorem Balanced.countP_isOk {x : Entity S D} {log : Outcomes D} (h : x.Balanced log) :
    log.countP Except.isOk = if x.isInspected then 1 else 0 := by
  obtain ⟨errs, rfl⟩ := h
  have hfailures : (errs.map Except.error : Outcomes D).countP Except.isOk = 0 := by
    rw [List.countP_map]
    exact List.countP_eq_zero.2 fun _ _ h => nomatch h
  rw [List.countP_append, hfailures, isInspected]
  cases x.details? <;> rfl

theorem Balanced.length_eq {x : Entity S D} {log : Outcomes D} (h : x.Balanced log) :
    log.length = log.countP (fun outcome => !outcome.isOk) + if x.isInspected then 1 else 0 := by
  rw [← h.countP_isOk, List.length_eq_countP_add_countP Except.isOk (l := log), Nat.add_comm]
  simp only [Bool.not_eq_true, Bool.decide_eq_false]

theorem Balanced.mem_log {x : Entity S D} {log : Outcomes D} (h : x.Balanced log) {d : D} :
    .ok d ∈ log ↔ x.details? = some d := by
  obtain ⟨errs, rfl⟩ := h
  simp

/-! ### Calls on an inspected entity -/

theorem agree_askAt_answerAt {x : Entity S D} {d : D} (hd : x.details? = some d) (i : ι)
    (log : Outcomes D) (c : Comparison) (k : κ) :
    Expr.Agree (fun s k' => s = (k', x, i, log)) (fun s k' => s = (k', x, i, log))
      ((askAt view (logged inspect) clock c).runFrom (k, x, i, log))
      ((view.answerAt clock x.summary (.ok d) c).runFrom k) := by
  have hquiet : Asked view (logged inspect) (clock k).1 c (x, i, log) _ :=
    .quiet fun _ => Option.isSome_iff_exists.2 ⟨d, hd⟩
  rw [record_of_details hd] at hquiet
  rw [runFrom_askAt, hquiet.runFrom_ask]
  exact .of_states _ rfl

/-- **Once the details are there, all calls are answered from them**, and nothing is inspected
any more. -/
theorem answerAll_of_details {x : Entity S D} {d : D} (hd : x.details? = some d) (k : κ) (i : ι)
    (log : Outcomes D) (calls : List Call) :
    Call.answerAll (askAt view (logged inspect) clock) calls (k, x, i, log) =
      ((Call.answerAll (view.answerAt clock x.summary (.ok d)) calls k).1,
        (Call.answerAll (view.answerAt clock x.summary (.ok d)) calls k).2, x, i, log) := by
  obtain ⟨hanswers, hstates⟩ := Call.answerAll_agrees
    (R := fun s k' => s = (k', x, i, log))
    (fun c _ k hs => hs ▸ agree_askAt_answerAt hd i log c k) calls rfl
  exact Prod.ext hanswers hstates

/-! ### Calls on any entity -/

theorem Effect.record_eq {k : κ} {x : Entity S D} {i : ι} {log : Outcomes D} {d : D}
    {run : Except QueryError Bool × κ × Entity S D × ι × Outcomes D}
    (h : Effect view inspect (k, x, i, log) run) (hd : run.2.2.1.details? = some d) :
    x.record view (logged inspect) (i, log) = .ok d := by
  cases h with
  | quiet => exact record_of_details hd _
  | @fetched _ _ _ _ i' _ _ d' hdetails hi =>
    obtain rfl : d' = d := Option.some.inj hd
    have hlogged : (logged inspect (view.id x.summary)).run.run (i, log) =
        (.ok d', i', log ++ [.ok d']) := by simp only [run_logged, hi]
    exact record_of_inspect hdetails hlogged
  | failed hdetails hi =>
    rw [hdetails] at hd
    cases hd

/-- A call that ends with the details there has answered from them, even if it fetched them
halfway. -/
theorem answer_of_details (call : Call) {k : κ} {x : Entity S D} {i : ι} {log : Outcomes D} {d : D}
    (hd : ((call.answer (askAt view (logged inspect) clock)).runFrom
      (k, x, i, log)).2.2.1.details? = some d) :
    ((call.answer (askAt view (logged inspect) clock)).runFrom (k, x, i, log)).1 =
      ((call.answer (view.answerAt clock x.summary (.ok d))).runFrom k).1 := by
  -- nothing was inspected before the details were, so an inspection at the start gives them too
  have hrecord := (effect_answer call (k, x, i, log)).record_eq hd
  obtain ⟨e, he⟩ := call.exists_answer_eq_evaluate
  have hanswer : ((holdsAt view (logged inspect) clock e).runFrom (k, x, i, log)).1 = _ :=
    (holdsAt_answer e k x (i, log)).1
  rw [he, he, ← hrecord]
  exact hanswer

theorem log_of_inDetails {c : Comparison} (hc : view.inDetails c.field = true) {x : Entity S D}
    (hx : x.details? = none) (k : κ) (i : ι) (log : Outcomes D) :
    ((askAt view (logged inspect) clock c).runFrom (k, x, i, log)).2.2.2.2 =
      log ++ [((inspect (view.id x.summary)).run.run i).1] := by
  rcases hi : (inspect (view.id x.summary)).run.run i with ⟨err | d, i'⟩
  · have hfailed : Asked view (logged inspect) (clock k).1 c (x, i, log) _ :=
      .failed hc hx (by rw [run_logged, hi])
    rw [runFrom_askAt, hfailed.runFrom_ask]
  · have hfetched : Asked view (logged inspect) (clock k).1 c (x, i, log) _ :=
      .fetched hc hx (by rw [run_logged, hi])
    rw [runFrom_askAt, hfetched.runFrom_ask]

theorem record_logged (x : Entity S D) (i : ι) (log : Outcomes D) :
    x.record view (logged inspect) (i, log) = x.record view inspect i := by
  rw [record, record]
  cases x.details? <;> rfl

theorem agree_askAt_logged (c : Comparison) (s : κ × Entity S D × ι × Outcomes D) :
    Expr.Agree (fun s t => t = (s.1, s.2.1, s.2.2.1)) (fun s t => t = (s.1, s.2.1, s.2.2.1))
      ((askAt view (logged inspect) clock c).runFrom s)
      ((askAt view inspect clock c).runFrom (s.1, s.2.1, s.2.2.1)) := by
  obtain ⟨k, x, i, log⟩ := s
  have hasked := asked_ask view (logged inspect) (clock k).1 c (x, i, log)
  rw [runFrom_askAt, runFrom_askAt]
  revert hasked
  generalize (ask view (logged inspect) (clock k).1 c).runFrom (x, i, log) = run
  intro hasked
  cases hasked with
  | quiet hinspected =>
    have hquiet : Asked view inspect (clock k).1 c (x, i) _ := .quiet hinspected
    rw [hquiet.runFrom_ask, record_logged]
    exact .of_states _ rfl
  | fetched hc hx hlogged =>
    obtain ⟨i', hi, rfl⟩ := exists_of_run_logged hlogged
    have hfetched : Asked view inspect (clock k).1 c (x, i) _ := .fetched hc hx hi
    rw [hfetched.runFrom_ask]
    exact .of_states _ rfl
  | failed hc hx hlogged =>
    obtain ⟨i', hi, rfl⟩ := exists_of_run_logged hlogged
    have hfailed : Asked view inspect (clock k).1 c (x, i) _ := .failed hc hx hi
    rw [hfailed.runFrom_ask]
    exact .of_states _ rfl

/-- Writing the log changes nothing else. -/
theorem answerAll_logged (view : View S D) (inspect : String → Inspecting ι D) (clock : Clock κ)
    (calls : List Call) (s : κ × Entity S D × ι × Outcomes D) :
    Call.answerAll (askAt view inspect clock) calls (s.1, s.2.1, s.2.2.1) =
      ((Call.answerAll (askAt view (logged inspect) clock) calls s).1,
        (Call.answerAll (askAt view (logged inspect) clock) calls s).2.1,
        (Call.answerAll (askAt view (logged inspect) clock) calls s).2.2.1,
        (Call.answerAll (askAt view (logged inspect) clock) calls s).2.2.2.1) := by
  obtain ⟨hanswers, hstates⟩ := Call.answerAll_agrees
    (R := fun (s : κ × Entity S D × ι × Outcomes D) t => t = (s.1, s.2.1, s.2.2.1))
    (fun c s _ hs => hs ▸ agree_askAt_logged c s) calls (s := s) rfl
  exact Prod.ext hanswers.symm hstates

/-! ### The accounts -/

/-- The accounts of an entity, with its inspector in the state `i`, the clock in the state `k`, and
all outcomes of its inspections in the log. -/
structure Accounts (view : View S D) (inspect : String → Inspecting ι D) (clock : Clock κ)
    (summary : S) (k : κ) (x : Entity S D) (i : ι) (log : Outcomes D) : Prop where
  /-- The summary is what it was from the start. -/
  summary_eq : x.summary = summary
  /-- At most one inspection has succeeded. -/
  successes_le : log.countP Except.isOk ≤ 1
  /-- Every inspection has failed but the one that gave the details, if they are there. -/
  length_eq :
    log.length = log.countP (fun outcome => !outcome.isOk) + if x.isInspected then 1 else 0
  /-- The details are what the inspection that succeeded gave. -/
  mem_log : ∀ d, .ok d ∈ log ↔ x.details? = some d
  /-- Once the details are there they stay, nothing is inspected any more, and all answers are
  read off the summary and the details. -/
  later : ∀ d, x.details? = some d → ∀ calls : List Call,
    Call.answerAll (askAt view (logged inspect) clock) calls (k, x, i, log) =
      ((Call.answerAll (view.answerAt clock summary (.ok d)) calls k).1,
        (Call.answerAll (view.answerAt clock summary (.ok d)) calls k).2, x, i, log)
  /-- The next call inspects nothing, or fetches the details, or fails with what an inspection
  fails with and leaves the entity as it was. -/
  next : ∀ call : Call, Effect view inspect (k, x, i, log)
    ((call.answer (askAt view (logged inspect) clock)).runFrom (k, x, i, log))
  /-- A call that fetches the details answers from them too. -/
  answer : ∀ (call : Call) (d : D),
    ((call.answer (askAt view (logged inspect) clock)).runFrom
      (k, x, i, log)).2.2.1.details? = some d →
    ((call.answer (askAt view (logged inspect) clock)).runFrom (k, x, i, log)).1 =
      ((call.answer (view.answerAt clock summary (.ok d))).runFrom k).1
  /-- As long as the details are not there, every comparison that needs them inspects the
  entity. -/
  again : x.details? = none → ∀ c : Comparison, view.inDetails c.field = true →
    ((askAt view (logged inspect) clock c).runFrom (k, x, i, log)).2.2.2.2 =
      log ++ [((inspect (view.id summary)).run.run i).1]

theorem Balanced.accounts {x : Entity S D} {log : Outcomes D} (h : x.Balanced log) {summary : S}
    (hsummary : x.summary = summary) (k : κ) (i : ι) :
    Accounts view inspect clock summary k x i log := by
  subst hsummary
  exact {
    summary_eq := rfl
    successes_le := by
      rw [h.countP_isOk]
      split <;> simp
    length_eq := h.length_eq
    mem_log := fun _ => h.mem_log
    later := fun _ hd calls => answerAll_of_details hd k i log calls
    next := fun call => effect_answer call _
    answer := fun call _ hd => answer_of_details call hd
    again := fun hx _ hc => log_of_inDetails hc hx k i log }

theorem balanced_answerAll (view : View S D) (inspect : String → Inspecting ι D)
    (clock : Clock κ) (calls : List Call) {s : κ × Entity S D × ι × Outcomes D}
    (hs : s.2.1.Balanced s.2.2.2) :
    (Call.answerAll (askAt view (logged inspect) clock) calls s).2.2.1.summary = s.2.1.summary ∧
      (Call.answerAll (askAt view (logged inspect) clock) calls s).2.2.1.Balanced
        (Call.answerAll (askAt view (logged inspect) clock) calls s).2.2.2.2 := by
  refine Call.answerAll_invariant
    (I := fun s' : κ × Entity S D × ι × Outcomes D =>
      s'.2.1.summary = s.2.1.summary ∧ s'.2.1.Balanced s'.2.2.2)
    (fun call s' hs' => ?_) calls ⟨rfl, hs⟩
  obtain ⟨hsummary, hbalanced⟩ := hs'.2.of_effect (effect_answer call s')
  exact ⟨hsummary.trans hs'.1, hbalanced⟩

/-- **The accounts are in order after any calls** on a fresh entity, and they are those of the
calls as they are made without a log. -/
theorem accounts_answerAll (view : View S D) (inspect : String → Inspecting ι D)
    (clock : Clock κ) (summary : S) (k : κ) (i : ι) (calls : List Call) :
    ∃ answers k' x i' log,
      Call.answerAll (askAt view inspect clock) calls (k, { summary }, i) =
        (answers, k', x, i') ∧
      Call.answerAll (askAt view (logged inspect) clock) calls (k, { summary }, i, []) =
        (answers, k', x, i', log) ∧
      Accounts view inspect clock summary k' x i' log := by
  have hplain := answerAll_logged view inspect clock calls (k, { summary }, i, [])
  have hfresh : ({ summary } : Entity S D).Balanced [] := ⟨[], rfl⟩
  obtain ⟨hsummary, hbalanced⟩ :=
    balanced_answerAll view inspect clock calls (s := (k, { summary }, i, [])) hfresh
  exact ⟨_, _, _, _, _, hplain, rfl, hbalanced.accounts hsummary _ _⟩

end Entity

end FleetQuery
