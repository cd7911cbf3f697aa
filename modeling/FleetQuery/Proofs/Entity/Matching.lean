import FleetQuery.Proofs.Entity.Kind
import FleetQuery.Proofs.Match.Walk

/-!
# Inspections of a scan

Which entities a scan inspects, whatever the inspector and the clock do:

* `scanAt` : a scan that reads the clock for every comparison;
* `Matching`, `View.matchings` : the listed entities that a scan comes to, each with what it was
  asked, and with the answer; `View.induction_matched` is the induction along them;
* `Inspector.inspections` : of these, the ids of those that were asked for a field that the listing
  does not tell;
* `Inspector.Thrifty`, `Inspector.thrifty_scanAt` : **these and no others are inspected**, each of
  them once.

An entity may be listed more than once.  Each entry is matched by itself, so it is inspected by
itself.
-/

namespace FleetQuery

open Answering

variable {S D ι κ : Type}

/-! ### Scans with a clock -/

/-- An action of an inspector, next to a clock that it does not read. -/
def besideClock {α : Type} (action : Answering ι α) : Answering (κ × ι) α :=
  ExceptT.mk fun (k, i) =>
    let (answer, i) := action.runFrom i
    (answer, k, i)

/-- Match one listed entity, with nothing fetched yet. -/
def View.matchListedAt (view : View S D) (inspect : String → Inspecting ι D) (clock : Clock κ)
    (e : Expr) (summary : S) : Answering (κ × ι) Bool :=
  ExceptT.mk fun (k, i) =>
    let (answer, k, _, i) := (Entity.holdsAt view inspect clock e).runFrom (k, { summary }, i)
    (answer, k, i)

/-- The ids of the listed entities that match, in order; the first failure ends the scan. -/
def View.scanAt (view : View S D) (inspect : String → Inspecting ι D) (clock : Clock κ) (e : Expr) :
    List S → Answering (κ × ι) (List String)
  | [] => pure []
  | summary :: rest => do
    let matched ← view.matchListedAt inspect clock e summary
    let ids ← view.scanAt inspect clock e rest
    pure (if matched then view.id summary :: ids else ids)

/-- The ids of the entities of a kind that match, with the clock read for every comparison. -/
def scanAt (inspector : Inspector ι) (kind : EntityKind) (clock : Clock κ) (e : Expr) :
    Answering (κ × ι) (List String) := do
  let summaries ← besideClock (listing (inspector.list kind))
  kind.view.scanAt (inspector.inspect kind) clock e summaries

theorem runFrom_besideClock {α : Type} (action : Answering ι α) (k : κ) (i : ι) :
    (besideClock action).runFrom (k, i) = ((action.runFrom i).1, k, (action.runFrom i).2) := rfl

theorem View.runFrom_scanAt_still (view : View S D) (inspect : String → Inspecting ι D)
    (now : Instant) (e : Expr) (summaries : List S) (k : κ) (i : ι) :
    (view.scanAt inspect (fun k => (now, k)) e summaries).runFrom (k, i) =
      (besideClock (view.scan inspect now e summaries)).runFrom (k, i) := by
  induction summaries generalizing i with
  | nil => rfl
  | cons summary rest ih =>
    have hmatch : (view.matchListedAt inspect (fun k => (now, k)) e summary).runFrom (k, i) =
        (besideClock (view.matchListed inspect now e summary)).runFrom (k, i) :=
      congrArg (fun run : Except QueryError Bool × κ × Entity S D × ι =>
        (run.1, run.2.1, run.2.2.2)) (Entity.runFrom_holdsAt_still e k ({ summary }, i))
    rw [runFrom_besideClock] at hmatch ⊢
    rw [scanAt, scan_cons, runFrom_bind, runFrom_bind, hmatch]
    rcases (view.matchListed inspect now e summary).runFrom i with ⟨err | b, i'⟩
    · rfl
    · dsimp only
      rw [runFrom_bind, runFrom_bind, ih, runFrom_besideClock]
      rcases (view.scan inspect now e rest).runFrom i' with ⟨err | ids, i''⟩ <;> rfl

/-- **A scan is one with a clock that stands still.** -/
theorem runFrom_scanAt_still (inspector : Inspector ι) (kind : EntityKind) (now : Instant)
    (e : Expr) (k : κ) (i : ι) :
    (scanAt inspector kind (fun k => (now, k)) e).runFrom (k, i) =
      (besideClock (scan inspector kind now e)).runFrom (k, i) := by
  rw [runFrom_besideClock, scanAt, scan_eq, runFrom_bind, runFrom_bind, runFrom_besideClock]
  rcases Answering.runFrom (listing (inspector.list kind)) i with ⟨err | summaries, i'⟩
  · rfl
  · exact View.runFrom_scanAt_still kind.view (inspector.inspect kind) now e summaries k i'

/-! ### Matchings -/

/-- What came of one listed entity in a scan. -/
structure Matching where
  /-- The id. -/
  id : String
  /-- The comparisons that were asked, with their answers. -/
  calls : Calls
  /-- Whether it matched, or how that failed. -/
  answer : Except QueryError Bool

/-- Some comparison that was asked is on one of the fields. -/
def asks (fields : Field → Bool) (calls : Calls) : Bool :=
  calls.any fun call => fields call.1.field

theorem asks_concat (fields : Field → Bool) (calls : Calls) (c : Comparison)
    (answer : Except QueryError Bool) :
    asks fields (calls ++ [(c, answer)]) = (asks fields calls || fields c.field) := by
  simp [asks]

/-- The ids of the entities that were asked for one of the fields. -/
def idsAsked (fields : Field → Bool) (ms : List Matching) : List String :=
  (ms.filter fun m => asks fields m.calls).map Matching.id

theorem idsAsked_cons (fields : Field → Bool) (m : Matching) (ms : List Matching) :
    idsAsked fields (m :: ms) =
      (if asks fields m.calls then [m.id] else []) ++ idsAsked fields ms := by
  rw [idsAsked, idsAsked, List.filter_cons]
  cases asks fields m.calls <;> rfl

namespace View

/-- What comes of one listed entity, and the states that the clock and the inspector are left in. -/
def matching (view : View S D) (inspect : String → Inspecting ι D) (clock : Clock κ) (e : Expr)
    (summary : S) (s : κ × ι) : Matching × κ × ι :=
  let run := (e.evaluate (recorded (Entity.askAt view inspect clock))).runFrom
    ((s.1, { summary }, s.2), [])
  (⟨view.id summary, run.2.2, run.1⟩, run.2.1.1, run.2.1.2.2)

/-- What comes of the listed entities, up to and including the first that fails. -/
def matchings (view : View S D) (inspect : String → Inspecting ι D) (clock : Clock κ) (e : Expr) :
    List S → κ × ι → List Matching
  | [], _ => []
  | summary :: rest, s =>
    let (m, s) := view.matching inspect clock e summary s
    m :: match m.answer with
      | .ok _ => view.matchings inspect clock e rest s
      | .error _ => []

variable {view : View S D} {inspect : String → Inspecting ι D} {clock : Clock κ} {e : Expr}

theorem matchings_of_ok {summary : S} {s : κ × ι} {b : Bool}
    (h : (view.matching inspect clock e summary s).1.answer = .ok b) (rest : List S) :
    view.matchings inspect clock e (summary :: rest) s =
      (view.matching inspect clock e summary s).1 ::
        view.matchings inspect clock e rest (view.matching inspect clock e summary s).2 := by
  simp only [matchings, h]

theorem matchings_of_error {summary : S} {s : κ × ι} {err : QueryError}
    (h : (view.matching inspect clock e summary s).1.answer = .error err) (rest : List S) :
    view.matchings inspect clock e (summary :: rest) s =
      [(view.matching inspect clock e summary s).1] := by
  simp only [matchings, h]

/-- Induction along a scan, which ends with the listing or with the first entity that fails. -/
@[elab_as_elim]
theorem induction_matched (view : View S D) (inspect : String → Inspecting ι D) (clock : Clock κ)
    (e : Expr) {motive : List S → κ × ι → Prop} (nil : ∀ s, motive [] s)
    (failed : ∀ summary rest s err,
      (view.matching inspect clock e summary s).1.answer = .error err → motive (summary :: rest) s)
    (matched : ∀ summary rest s b, (view.matching inspect clock e summary s).1.answer = .ok b →
      motive rest (view.matching inspect clock e summary s).2 → motive (summary :: rest) s)
    (summaries : List S) (s : κ × ι) : motive summaries s := by
  induction summaries generalizing s with
  | nil => exact nil s
  | cons summary rest ih =>
    cases hanswer : (view.matching inspect clock e summary s).1.answer with
    | error err => exact failed summary rest s err hanswer
    | ok b => exact matched summary rest s b hanswer (ih _)

/-- Entities are come to in the order of the listing. -/
theorem ids_isPrefix (summaries : List S) (s : κ × ι) :
    (view.matchings inspect clock e summaries s).map Matching.id <+: summaries.map view.id := by
  induction summaries, s using induction_matched view inspect clock e with
  | nil s => exact List.prefix_rfl
  | failed summary rest s err hanswer =>
    rw [matchings_of_error hanswer]
    exact List.cons_prefix_cons.2 ⟨rfl, List.nil_prefix⟩
  | matched summary rest s b hanswer ih =>
    rw [matchings_of_ok hanswer]
    exact List.cons_prefix_cons.2 ⟨rfl, ih⟩

theorem ids_eq_of_answers (summaries : List S) (s : κ × ι)
    (h : ∀ m ∈ view.matchings inspect clock e summaries s, ∃ b, m.answer = .ok b) :
    (view.matchings inspect clock e summaries s).map Matching.id = summaries.map view.id := by
  induction summaries, s using induction_matched view inspect clock e with
  | nil s => rfl
  | failed summary rest s err hanswer =>
    rw [matchings_of_error hanswer] at h
    obtain ⟨b, hb⟩ := h _ List.mem_cons_self
    cases hanswer.symm.trans hb
  | matched summary rest s b hanswer ih =>
    rw [matchings_of_ok hanswer] at h ⊢
    rw [List.map_cons, List.map_cons, ih fun m hm => h m (List.mem_cons_of_mem _ hm)]
    rfl

/-- Nothing comes after an entity that failed. -/
theorem answers_pairwise (summaries : List S) (s : κ × ι) :
    (view.matchings inspect clock e summaries s).Pairwise fun m _ => ∃ b, m.answer = .ok b := by
  induction summaries, s using induction_matched view inspect clock e with
  | nil s => exact .nil
  | failed summary rest s err hanswer =>
    rw [matchings_of_error hanswer]
    exact List.pairwise_singleton _ _
  | matched summary rest s b hanswer ih =>
    rw [matchings_of_ok hanswer]
    exact .cons (fun _ _ => ⟨b, hanswer⟩) ih

theorem forall_mem_matchings {P : Matching → Prop}
    (h : ∀ summary s, P (view.matching inspect clock e summary s).1) (summaries : List S)
    (s : κ × ι) : ∀ m ∈ view.matchings inspect clock e summaries s, P m := by
  induction summaries, s using induction_matched view inspect clock e with
  | nil s => exact fun _ hm => nomatch hm
  | failed summary rest s err hanswer =>
    rw [matchings_of_error hanswer]
    exact List.forall_mem_singleton.2 (h summary s)
  | matched summary rest s b hanswer ih =>
    rw [matchings_of_ok hanswer]
    exact List.forall_mem_cons.2 ⟨h summary s, ih⟩

/-! ### What a scan makes of them -/

theorem matching_eq (summary : S) (s : κ × ι) :
    view.matching inspect clock e summary s =
      (⟨view.id summary,
        callsOf e.leaves (e.visits (Entity.askAt view inspect clock) (s.1, { summary }, s.2)),
        ((view.matchListedAt inspect clock e summary).runFrom s).1⟩,
        ((view.matchListedAt inspect clock e summary).runFrom s).2) := by
  have hwalk := Expr.walk_visits (Entity.askAt view inspect clock) e (s.1, { summary }, s.2)
  rw [matching, hwalk.runFrom_recorded]
  rfl

theorem runFrom_matchListedAt (summary : S) (s : κ × ι) :
    (view.matchListedAt inspect clock e summary).runFrom s =
      ((view.matching inspect clock e summary s).1.answer,
        (view.matching inspect clock e summary s).2) := by
  rw [matching_eq]

/-- What is asked of an entity are comparisons of the expression, from left to right. -/
theorem calls_sublist (summary : S) (s : κ × ι) :
    ((view.matching inspect clock e summary s).1.calls.map Prod.fst).Sublist e.leaves := by
  rw [matching_eq]
  exact callsOf_sublist _ _

/-- A scan gives the ids of the entities that matched, or the first failure. -/
theorem scanAt_answer (summaries : List S) (s : κ × ι) :
    ((view.scanAt inspect clock e summaries).runFrom s).1 =
      ((view.matchings inspect clock e summaries s).filterM Matching.answer).map
        (List.map Matching.id) := by
  induction summaries, s using induction_matched view inspect clock e with
  | nil s => rfl
  | failed summary rest s err hanswer =>
    rw [matchings_of_error hanswer, filterM_cons, scanAt, runFrom_bind, runFrom_matchListedAt,
      hanswer]
    rfl
  | matched summary rest s b hanswer ih =>
    rw [matchings_of_ok hanswer, filterM_cons, scanAt, runFrom_bind, runFrom_matchListedAt, hanswer]
    dsimp only
    rw [runFrom_bind, except_ok_bind]
    revert ih
    -- the rest of the scan and the rest of the filtering fail alike, or both give the same ids
    rcases (view.scanAt inspect clock e rest).runFrom (view.matching inspect clock e summary s).2
      with ⟨err | ids, s'⟩ <;>
    rcases (view.matchings inspect clock e rest
      (view.matching inspect clock e summary s).2).filterM Matching.answer with err' | kept <;>
    intro ih <;> cases ih
    · rfl
    · cases b <;> rfl

end View

/-! ### One entity and what is recorded of it -/

theorem exists_of_run_recording {α : Type} {id : String} {action : Inspecting ι α} {i : ι}
    {ids : List String} {outcome : Except SourceError α} {s : ι × List String}
    (h : (Inspector.recording id action).run.run (i, ids) = (outcome, s)) :
    ∃ i', action.run.run i = (outcome, i') ∧ s = (i', ids ++ [id]) := by
  obtain ⟨rfl, rfl⟩ := Prod.mk.inj h
  exact ⟨_, rfl, rfl⟩

namespace Entity

variable {view : View S D} {inspect : String → Inspecting ι D} {clock : Clock κ} {summary : S}
  {log : List String}

/-- The inspections that are recorded, next to the calls that are: one more if some call was on a
field in the details. -/
structure Noted (view : View S D) (summary : S) (log : List String)
    (s : κ × Entity S D × ι × List String) (t : (κ × Entity S D × ι) × Calls) : Prop where
  /-- The records are not read. -/
  same : t.1 = (s.1, s.2.1, s.2.2.1)
  /-- The inspections. -/
  log_eq : s.2.2.2 = log ++ if asks view.inDetails t.2 then [view.id summary] else []

/-- The inspections and the calls that are recorded before a failure. -/
structure Keeping (view : View S D) (summary : S) (log : List String)
    (s : κ × Entity S D × ι × List String) (t : (κ × Entity S D × ι) × Calls) : Prop
    extends Noted view summary log s t where
  /-- It is the same entity all the time. -/
  summary_eq : s.2.1.summary = summary
  /-- It has its details if some call was on a field in them. -/
  isInspected_eq : s.2.1.isInspected = asks view.inDetails t.2

theorem record_recording (x : Entity S D) (i : ι) (ids : List String) :
    x.record view (fun id => Inspector.recording id (inspect id)) (i, ids) =
      x.record view inspect i := by
  rw [record, record]
  cases x.details? <;> rfl

theorem runFrom_recorded_askAt (c : Comparison) (k : κ) (s : Entity S D × ι) (calls : Calls) :
    (recorded (askAt view inspect clock) c).runFrom ((k, s), calls) =
      (((ask view inspect (clock k).1 c).runFrom s).1,
        ((clock k).2, ((ask view inspect (clock k).1 c).runFrom s).2),
        calls ++ [(c, ((ask view inspect (clock k).1 c).runFrom s).1)]) := rfl

theorem Keeping.log_eq_of_inDetails {k : κ} {x : Entity S D} {i : ι} {ids : List String}
    {t : (κ × Entity S D × ι) × Calls} (h : Keeping view summary log (k, x, i, ids) t)
    (hx : x.details? = none) {c : Comparison} (hc : view.inDetails c.field = true)
    (answer : Except QueryError Bool) :
    ids ++ [view.id x.summary] =
      log ++ if asks view.inDetails (t.2 ++ [(c, answer)]) then [view.id summary] else [] := by
  have hinspected : false = asks view.inDetails t.2 := by
    rw [← h.isInspected_eq, isInspected, hx]
    rfl
  have hlog : ids = _ := h.log_eq
  have hsummary : x.summary = summary := h.summary_eq
  rw [asks_concat, hc, hlog, ← hinspected, hsummary]
  simp

/-- A call inspects the entity if it is the first on a field in the details. -/
theorem agree_recording (inspect : String → Inspecting ι D) (clock : Clock κ) (c : Comparison)
    (s : κ × Entity S D × ι × List String)
    (t : (κ × Entity S D × ι) × Calls) (h : Keeping view summary log s t) :
    Expr.Agree (Keeping view summary log) (Noted view summary log)
      ((askAt view (fun id => Inspector.recording id (inspect id)) clock c).runFrom s)
      ((recorded (askAt view inspect clock) c).runFrom t) := by
  obtain ⟨k, x, i, ids⟩ := s
  obtain ⟨_, calls⟩ := t
  have hfirst := fun hx hc => h.log_eq_of_inDetails hx (c := c) hc
  obtain ⟨⟨rfl, hlog⟩, hsummary, hinspected⟩ := h
  have hasked := asked_ask view (fun id => Inspector.recording id (inspect id)) (clock k).1 c
    (x, i, ids)
  rw [runFrom_askAt, runFrom_recorded_askAt]
  revert hasked
  generalize (ask view (fun id => Inspector.recording id (inspect id)) (clock k).1 c).runFrom
    (x, i, ids) = run
  intro hasked
  cases hasked with
  | quiet hthere =>
    have hquiet : Asked view inspect (clock k).1 c (x, i) _ := .quiet hthere
    rw [hquiet.runFrom_ask, record_recording]
    -- a field in the details has been asked for before, or else they would not be there
    have hasks : ∀ answer, asks view.inDetails (calls ++ [(c, answer)]) =
        asks view.inDetails calls := by
      intro answer
      rw [asks_concat, ← hinspected, Bool.or_eq_left_iff_imp]
      exact hthere
    refine (Expr.Agree.of_states _ ?_).imp fun _ _ h => h.toNoted
    exact ⟨⟨rfl, by rw [hasks]; exact hlog⟩, hsummary, by rw [hasks]; exact hinspected⟩
  | fetched hc hx hrun =>
    obtain ⟨i', hi, rfl⟩ := exists_of_run_recording hrun
    have hfetched : Asked view inspect (clock k).1 c (x, i) _ := .fetched hc hx hi
    rw [hfetched.runFrom_ask]
    refine (Expr.Agree.of_states _ ?_).imp fun _ _ h => h.toNoted
    refine ⟨⟨rfl, hfirst hx hc _⟩, hsummary, ?_⟩
    rw [asks_concat, hc, Bool.or_true]
    rfl
  | failed hc hx hrun =>
    obtain ⟨i', hi, rfl⟩ := exists_of_run_recording hrun
    have hfailed : Asked view inspect (clock k).1 c (x, i) _ := .failed hc hx hi
    rw [hfailed.runFrom_ask]
    exact .failed ⟨rfl, hfirst hx hc _⟩

end Entity

namespace View

variable {view : View S D} {inspect : String → Inspecting ι D} {clock : Clock κ} {e : Expr}

theorem runFrom_matchListedAt_recording (summary : S) (s : κ × ι) (log : List String) :
    (view.matchListedAt (fun id => Inspector.recording id (inspect id)) clock e summary).runFrom
        (s.1, s.2, log) =
      ((view.matching inspect clock e summary s).1.answer,
        (view.matching inspect clock e summary s).2.1,
        (view.matching inspect clock e summary s).2.2,
        log ++ if asks view.inDetails (view.matching inspect clock e summary s).1.calls then
          [view.id summary] else []) := by
  have hfresh : Entity.Keeping view summary log (s.1, { summary }, s.2, log)
      ((s.1, { summary }, s.2), []) := ⟨⟨rfl, (List.append_nil log).symm⟩, rfl, rfl⟩
  have hagree := Expr.evaluate_agrees (Entity.agree_recording inspect clock) e hfresh
  obtain ⟨hsame, hlog⟩ := hagree.final
  refine Prod.ext hagree.answer_eq ?_
  rw [matching, hsame]
  exact Prod.ext rfl (Prod.ext rfl hlog)

/-- **A scan inspects the entities that it asks for something in their details**, each of them once,
and is otherwise what it is if nothing is recorded. -/
theorem runFrom_scanAt_recording (summaries : List S) (s : κ × ι) (log : List String) :
    (view.scanAt (fun id => Inspector.recording id (inspect id)) clock e summaries).runFrom
        (s.1, s.2, log) =
      (((view.scanAt inspect clock e summaries).runFrom s).1,
        ((view.scanAt inspect clock e summaries).runFrom s).2.1,
        ((view.scanAt inspect clock e summaries).runFrom s).2.2,
        log ++ idsAsked view.inDetails (view.matchings inspect clock e summaries s)) := by
  induction summaries, s using induction_matched view inspect clock e generalizing log with
  | nil s => exact congrArg (fun log => (Except.ok [], s.1, s.2, log)) (List.append_nil log).symm
  | failed summary rest s err hanswer =>
    rw [matchings_of_error hanswer, idsAsked_cons, scanAt, scanAt, runFrom_bind, runFrom_bind,
      runFrom_matchListedAt_recording, runFrom_matchListedAt, hanswer]
    exact congrArg (fun ids => (_, _, _, log ++ ids)) (List.append_nil _).symm
  | matched summary rest s b hanswer ih =>
    rw [matchings_of_ok hanswer, idsAsked_cons, ← List.append_assoc, scanAt, scanAt, runFrom_bind,
      runFrom_bind, runFrom_matchListedAt_recording, runFrom_matchListedAt, hanswer]
    dsimp only
    rw [runFrom_bind, runFrom_bind, ih]
    rcases (view.scanAt inspect clock e rest).runFrom (view.matching inspect clock e summary s).2
      with ⟨err | ids, s'⟩ <;> rfl

end View

/-! ### Fields that the listing tells -/

theorem idsAsked_congr {fields fields' : Field → Bool} {ms : List Matching}
    (h : ∀ m ∈ ms, ∀ call ∈ m.calls, fields call.1.field = fields' call.1.field) :
    idsAsked fields ms = idsAsked fields' ms := by
  have hasks : ∀ m ∈ ms, asks fields m.calls = asks fields' m.calls := by
    intro m hm
    rw [Bool.eq_iff_iff, asks, asks, List.any_eq_true, List.any_eq_true]
    exact exists_congr fun call => and_congr_right fun hcall => by rw [h m hm call hcall]
  rw [idsAsked, idsAsked, List.filter_congr hasks]

theorem idsAsked_eq_nil {fields : Field → Bool} {ms : List Matching}
    (h : ∀ m ∈ ms, ∀ call ∈ m.calls, fields call.1.field = false) : idsAsked fields ms = [] := by
  rw [idsAsked, List.map_eq_nil_iff, List.filter_eq_nil_iff]
  intro m hm hasks
  obtain ⟨call, hcall, hfield⟩ := List.any_eq_true.1 hasks
  exact Bool.false_ne_true ((h m hm call hcall).symm.trans hfield)

theorem exists_of_filterM_eq_error {ε α : Type} {p : α → Except ε Bool} {as : List α} {err : ε}
    (h : as.filterM p = .error err) : ∃ a ∈ as, p a = .error err := by
  induction as with
  | nil => cases h
  | cons a as ih =>
    rw [filterM_cons, except_bind_eq_error] at h
    rcases h with ha | ⟨b, hb, h⟩
    · exact ⟨a, List.mem_cons_self, ha⟩
    · rcases except_bind_eq_error.1 h with hrest | ⟨_, _, hpure⟩
      · obtain ⟨a', hmem, ha'⟩ := ih hrest
        exact ⟨a', List.mem_cons_of_mem _ hmem, ha'⟩
      · cases hpure

namespace View

variable {view : View S D} {inspect : String → Inspecting ι D} {clock : Clock κ} {e : Expr}

theorem isPatternError_of_matching (h : ∀ c ∈ e.leaves, view.Serves c.field c.op)
    (hc : ∀ c ∈ e.leaves, view.inDetails c.field = false) {summary : S} {s : κ × ι}
    {err : QueryError} (herr : (view.matching inspect clock e summary s).1.answer = .error err) :
    err.isPatternError = true := by
  rw [matching_eq] at herr
  have hholds : ((Entity.holdsAt view inspect clock e).runFrom (s.1, { summary }, s.2)).1 =
      .error err := herr
  refine Expr.evaluate_error (P := fun err => err.isPatternError = true) ?_ hholds
  rintro c hmem ⟨k, x, i⟩ err herr
  rw [Entity.runFrom_askAt, (Entity.asked_ask ..).answer_eq] at herr
  refine ((h c hmem).isPatternError_or_record herr).resolve_right fun hin => ?_
  exact Bool.false_ne_true ((hc c hmem).symm.trans hin.1)

end View

/-! ### Inspectors -/

theorem runFrom_listing {α : Type} (action : Inspecting ι α) (i : ι) :
    Answering.runFrom (listing action) i =
      ((action.run.run i).1.mapError .source, (action.run.run i).2) := rfl

theorem runFrom_scanAt (inspector : Inspector ι) (kind : EntityKind) (clock : Clock κ) (e : Expr)
    (k : κ) (i : ι) :
    (scanAt inspector kind clock e).runFrom (k, i) =
      match (inspector.list kind).run.run i with
      | (.ok summaries, i') =>
        (kind.view.scanAt (inspector.inspect kind) clock e summaries).runFrom (k, i')
      | (.error err, i') => (.error (.source err), k, i') := by
  rw [scanAt, runFrom_bind, runFrom_besideClock, runFrom_listing]
  rcases (inspector.list kind).run.run i with ⟨err | summaries, i'⟩ <;> rfl

namespace Inspector

/-- The entities of a kind that are listed, none if they cannot be, and the state that the inspector
is left in. -/
def listed (inspector : Inspector ι) (kind : EntityKind) (i : ι) : List kind.Summary × ι :=
  match (inspector.list kind).run.run i with
  | (.ok summaries, i) => (summaries, i)
  | (.error _, i) => ([], i)

/-- What comes of the listed entities of a kind, up to and including the first that fails. -/
def matchings (inspector : Inspector ι) (kind : EntityKind) (clock : Clock κ) (e : Expr) (k : κ)
    (i : ι) : List Matching :=
  let (summaries, i) := inspector.listed kind i
  kind.view.matchings (inspector.inspect kind) clock e summaries (k, i)

/-- The ids of those that are asked for a field that the listing does not tell. -/
def inspections (inspector : Inspector ι) (kind : EntityKind) (clock : Clock κ) (e : Expr) (k : κ)
    (i : ι) : List String :=
  idsAsked (fun field => field ∉ kind.summaryFields) (inspector.matchings kind clock e k i)

/-- A scan inspects no entity without need. -/
structure Thrifty (inspector : Inspector ι) (kind : EntityKind) (clock : Clock κ) (e : Expr)
    (k : κ) (i : ι) : Prop where
  /-- The ids that are inspected are, in order, those of the entities that are asked for a field
  that the listing does not tell.  To record them changes nothing else. -/
  inspected : ∀ log, (scanAt inspector.watched kind clock e).runFrom (k, i, log) =
    (((scanAt inspector kind clock e).runFrom (k, i)).1,
      ((scanAt inspector kind clock e).runFrom (k, i)).2.1,
      ((scanAt inspector kind clock e).runFrom (k, i)).2.2,
      log ++ inspector.inspections kind clock e k i)
  /-- The same at one instant. -/
  inspected_still : ∀ now log, (scan inspector.watched kind now e).runFrom (i, log) =
    (((scan inspector kind now e).runFrom i).1, ((scan inspector kind now e).runFrom i).2,
      log ++ inspector.inspections kind (fun u : Unit => (now, u)) e () i)
  /-- The entities are come to in the order of the listing, each entry once. -/
  order : (inspector.matchings kind clock e k i).map Matching.id <+:
    (inspector.listed kind i).1.map kind.view.id
  /-- What is asked of an entity are comparisons of the filter, from left to right. -/
  asked : ∀ m ∈ inspector.matchings kind clock e k i, (m.calls.map Prod.fst).Sublist e.leaves
  /-- No entity comes after one that fails. -/
  stops : (inspector.matchings kind clock e k i).Pairwise fun m _ => ∃ b, m.answer = .ok b
  /-- If none fails, all of the listed entities are come to. -/
  all : (∀ m ∈ inspector.matchings kind clock e k i, ∃ b, m.answer = .ok b) →
    (inspector.matchings kind clock e k i).map Matching.id =
      (inspector.listed kind i).1.map kind.view.id
  /-- The scan gives the ids of the entities that match, or the first failure. -/
  answer : ((scanAt inspector kind clock e).runFrom (k, i)).1 =
    match ((inspector.list kind).run.run i).1 with
    | .ok _ => ((inspector.matchings kind clock e k i).filterM Matching.answer).map
        (List.map Matching.id)
    | .error err => .error (.source err)
  /-- A filter on nothing but what the listing tells inspects nothing, and can fail with the source
  only if the entities cannot be listed. -/
  spared : (∀ c ∈ e.leaves, c.field ∈ kind.summaryFields) →
    inspector.inspections kind clock e k i = [] ∧
      ∀ err, ((scanAt inspector kind clock e).runFrom (k, i)).1 = .error (.source err) →
        ((inspector.list kind).run.run i).1 = .error err

variable {inspector : Inspector ι} {kind : EntityKind} {clock : Clock κ} {e : Expr} {k : κ} {i : ι}

theorem asked_matchings :
    ∀ m ∈ inspector.matchings kind clock e k i, (m.calls.map Prod.fst).Sublist e.leaves :=
  View.forall_mem_matchings View.calls_sublist _ _

theorem forall_call_mem_leaves {P : Comparison → Prop} (h : ∀ c ∈ e.leaves, P c) :
    ∀ m ∈ inspector.matchings kind clock e k i, ∀ call ∈ m.calls, P call.1 :=
  fun m hm _ hcall => h _ ((asked_matchings m hm).subset (List.mem_map_of_mem hcall))

/-- Of the fields in a filter, those that the listing does not tell are in the details. -/
theorem inspections_eq {input : String} (he : parseFilter kind.schema input = .ok e) :
    inspector.inspections kind clock e k i =
      idsAsked kind.view.inDetails (inspector.matchings kind clock e k i) := by
  refine idsAsked_congr (forall_call_mem_leaves
    (P := fun c => decide (c.field ∉ kind.summaryFields) = kind.view.inDetails c.field)
    fun c hc => ?_)
  rw [Bool.eq_iff_iff, EntityKind.inDetails_iff_of_accepts (accepts_of_mem_leaves he hc),
    decide_eq_true_iff]

theorem scanAt_inspected {input : String} (he : parseFilter kind.schema input = .ok e)
    (log : List String) :
    (scanAt inspector.watched kind clock e).runFrom (k, i, log) =
      (((scanAt inspector kind clock e).runFrom (k, i)).1,
        ((scanAt inspector kind clock e).runFrom (k, i)).2.1,
        ((scanAt inspector kind clock e).runFrom (k, i)).2.2,
        log ++ inspector.inspections kind clock e k i) := by
  rw [inspections_eq he, runFrom_scanAt, runFrom_scanAt, watched_list, watched_inspect, matchings,
    listed]
  have hbeside : (beside (inspector.list kind)).run.run (i, log) =
      (((inspector.list kind).run.run i).1, ((inspector.list kind).run.run i).2, log) := rfl
  rw [hbeside]
  rcases (inspector.list kind).run.run i with ⟨err | summaries, i'⟩
  · exact congrArg (fun log => (_, k, i', log)) (List.append_nil log).symm
  · exact View.runFrom_scanAt_recording summaries (k, i') log

theorem scan_inspected {input : String} (he : parseFilter kind.schema input = .ok e)
    (now : Instant) (log : List String) :
    (scan inspector.watched kind now e).runFrom (i, log) =
      (((scan inspector kind now e).runFrom i).1, ((scan inspector kind now e).runFrom i).2,
        log ++ inspector.inspections kind (fun u : Unit => (now, u)) e () i) := by
  have hscan : (scanAt inspector.watched kind (fun u => (now, u)) e).runFrom ((), i, log) = _ :=
    scanAt_inspected he log
  rw [runFrom_scanAt_still, runFrom_scanAt_still] at hscan
  obtain ⟨hanswer, hstates⟩ := Prod.mk.inj hscan
  exact Prod.ext hanswer (Prod.mk.inj hstates).2

theorem scanAt_answer :
    ((scanAt inspector kind clock e).runFrom (k, i)).1 =
      match ((inspector.list kind).run.run i).1 with
      | .ok _ => ((inspector.matchings kind clock e k i).filterM Matching.answer).map
          (List.map Matching.id)
      | .error err => .error (.source err) := by
  rw [runFrom_scanAt, matchings, listed]
  rcases (inspector.list kind).run.run i with ⟨err | summaries, i'⟩
  · rfl
  · exact View.scanAt_answer summaries (k, i')

theorem isPatternError_of_mem_matchings {input : String}
    (he : parseFilter kind.schema input = .ok e)
    (h : ∀ c ∈ e.leaves, c.field ∈ kind.summaryFields) :
    ∀ m ∈ inspector.matchings kind clock e k i, ∀ err, m.answer = .error err →
      err.isPatternError = true := by
  have hserves : ∀ c ∈ e.leaves, kind.view.Serves c.field c.op := fun c hc =>
    kind.honest_view.serves_of_accepts (kind.schema_view ▸ accepts_of_mem_leaves he hc)
  have hlisted : ∀ c ∈ e.leaves, kind.view.inDetails c.field = false := fun c hc =>
    Bool.eq_false_iff.2 fun hin =>
      (EntityKind.inDetails_iff_of_accepts (accepts_of_mem_leaves he hc)).1 hin (h c hc)
  refine View.forall_mem_matchings (P := fun m => ∀ err, m.answer = .error err →
    err.isPatternError = true) ?_ _ _
  exact fun summary s err herr => View.isPatternError_of_matching hserves hlisted herr

/-- If no comparison of an accepted filter needs the details, only listing can fail with the
source. -/
theorem list_eq_error_of_scanAt {input : String} (he : parseFilter kind.schema input = .ok e)
    (h : ∀ c ∈ e.leaves, c.field ∈ kind.summaryFields) {err : SourceError}
    (herr : ((scanAt inspector kind clock e).runFrom (k, i)).1 = .error (.source err)) :
    ((inspector.list kind).run.run i).1 = .error err := by
  rw [scanAt_answer] at herr
  cases hlist : ((inspector.list kind).run.run i).1 with
  | error err' =>
    rw [hlist] at herr
    cases herr
    rfl
  | ok summaries =>
    rw [hlist] at herr
    dsimp only at herr
    cases hfilter : (inspector.matchings kind clock e k i).filterM Matching.answer with
    | ok kept =>
      rw [hfilter] at herr
      cases herr
    | error err' =>
      rw [hfilter] at herr
      cases herr
      -- some entity would have failed with the source
      obtain ⟨m, hm, hanswer⟩ := exists_of_filterM_eq_error hfilter
      exact nomatch isPatternError_of_mem_matchings he h m hm _ hanswer

/-- **A scan is thrifty**, whatever the inspector, the clock and the accepted filter: it inspects,
in the order of the listing and each entry once, the entities that the evaluation of the filter asks
for a field that the listing does not tell, up to and including the first that fails. -/
theorem thrifty_scanAt (inspector : Inspector ι) (kind : EntityKind) (clock : Clock κ)
    {input : String} {e : Expr} (he : parseFilter kind.schema input = .ok e) (k : κ) (i : ι) :
    Thrifty inspector kind clock e k i where
  inspected := scanAt_inspected he
  inspected_still := scan_inspected he
  order := View.ids_isPrefix _ _
  asked := asked_matchings
  stops := View.answers_pairwise _ _
  all := View.ids_eq_of_answers _ _
  answer := scanAt_answer
  spared h := by
    refine ⟨idsAsked_eq_nil ?_, fun err herr => list_eq_error_of_scanAt he h herr⟩
    exact forall_call_mem_leaves (P := fun c => decide (c.field ∉ kind.summaryFields) = false)
      fun c hc => decide_eq_false (not_not.2 (h c hc))

/-- One container is listed twice, one is spared by its image, one is not to be found, and one is
never come to. -/
theorem thrifty_scanAt_notFound :
    let inspector : Inspector Unit := Snapshot.inspector
      { containers := [{ id := "a", image := "nginx" }, { id := "b", image := "redis" },
          { id := "a", image := "nginx" }, { id := "c", image := "nginx" },
          { id := "d", image := "nginx" }],
        containerDetails := [{ id := "a", state := { running := true } }, { id := "d" }] }
    let clock : Clock Nat := fun n => (⟨⟨2024, 1, 15, by decide⟩, 50400, 0, by decide⟩, n + 1)
    ∃ e, parseFilter EntityKind.container.schema "image=nginx & running" = .ok e ∧
      inspector.Thrifty .container clock e 0 () ∧
      inspector.inspections .container clock e 0 () = ["a", "a", "c"] ∧
      ((scanAt inspector .container clock e).runFrom (0, ())).1 =
        .error (.source (.notFound .container "c")) := by
  intro inspector clock
  have he : parseFilter EntityKind.container.schema "image=nginx & running" =
      .ok (.and (.leaf ⟨.named "image", .eq, "nginx"⟩) (.leaf ⟨.named "running", .is, ""⟩)) := rfl
  refine ⟨_, he, thrifty_scanAt inspector .container clock he 0 (), ?_, ?_⟩
  · subst inspector clock
    rfl
  · subst inspector clock
    rfl

end Inspector

theorem Snapshot.inspected_eq (s : Snapshot) {kind : EntityKind} {input : String} {e : Expr}
    (he : parseFilter kind.schema input = .ok e) (now : Instant) :
    s.inspected kind now e =
      Inspector.inspections s.inspector kind (fun u : Unit => (now, u)) e () () :=
  congrArg (fun run => run.2.2) (Inspector.scan_inspected (i := ()) he now [])

end FleetQuery
