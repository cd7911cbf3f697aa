import FleetQuery.Proofs.Match.Evaluate

/-!
# The walk of an evaluation

Which comparisons an evaluation asks, in which order, and what its answer depends on, for every way
of answering comparisons, also one whose answers and failures depend on all the calls before:

* `Expr.visits` : what came of every comparison: its answer, or nothing if it was not asked;
* `recorded` : a way of answering that writes down every call;
* `Expr.value?`, `Expr.Spared` : what an operand came to, and the comparisons behind an operand that
  decided without them;
* `Expr.Orderly`, `Expr.orderly` : **what is asked, what is not, and what the answer is.**

All of it is proved along `Walk`, the course of an evaluation with one case for each way in which an
operand can end.
-/

namespace FleetQuery

open Answering

variable {σ : Type} {ask : Comparison → Answering σ Bool}

/-- What came of one comparison: its answer, or nothing if it was not asked. -/
abbrev Visit := Option (Except QueryError Bool)

/-- The calls that were made, with their answers. -/
abbrev Calls := List (Comparison × Except QueryError Bool)

/-- Answer as before, and write the call down. -/
def recorded (ask : Comparison → Answering σ Bool) (c : Comparison) : Answering (σ × Calls) Bool :=
  ExceptT.mk fun (s, calls) =>
    let (answer, s) := (ask c).runFrom s
    (answer, s, calls ++ [(c, answer)])

/-- The calls to comparisons that were asked, from left to right. -/
def callsOf (leaves : List Comparison) (visits : List Visit) : Calls :=
  (leaves.zip visits).filterMap fun (c, visit) => visit.map (c, ·)

theorem callsOf_append {cs ds : List Comparison} {vs ws : List Visit}
    (h : cs.length = vs.length) :
    callsOf (cs ++ ds) (vs ++ ws) = callsOf cs vs ++ callsOf ds ws := by
  rw [callsOf, List.zip_append h, List.filterMap_append]
  rfl

@[simp] theorem callsOf_replicate_none (cs : List Comparison) (n : Nat) :
    callsOf cs (List.replicate n none) = [] := by
  refine List.filterMap_eq_nil_iff.2 fun ⟨c, visit⟩ h => ?_
  obtain rfl := List.eq_of_mem_replicate (List.of_mem_zip h).2
  rfl

theorem callsOf_sublist (cs : List Comparison) (vs : List Visit) :
    ((callsOf cs vs).map Prod.fst).Sublist cs := by
  induction cs generalizing vs with
  | nil => exact .slnil
  | cons c cs ih =>
    obtain - | ⟨_ | answer, vs⟩ := vs
    · exact List.nil_sublist _
    · exact (ih vs).cons c
    · exact (ih vs).cons_cons c

namespace Expr

/-! ### Definitions -/

/-- What comes of every comparison of an expression that is evaluated from a state, from left to
right. -/
def visits (ask : Comparison → Answering σ Bool) : Expr → σ → List Visit
  | and l r, s =>
    match (l.evaluate ask).runFrom s with
    | (.ok true, s') => l.visits ask s ++ r.visits ask s'
    | _ => l.visits ask s ++ List.replicate r.leaves.length none
  | or l r, s =>
    match (l.evaluate ask).runFrom s with
    | (.ok false, s') => l.visits ask s ++ r.visits ask s'
    | _ => l.visits ask s ++ List.replicate r.leaves.length none
  | not e, s => e.visits ask s
  | leaf c, s => [some ((ask c).runFrom s).1]

/-- What an expression comes to, by what came of its comparisons: nothing if a comparison failed, or
was not asked though its answer was needed. -/
def value? : Expr → List Visit → Option Bool
  | and l r, vs =>
    match l.value? (vs.take l.leaves.length) with
    | some true => r.value? (vs.drop l.leaves.length)
    | other => other
  | or l r, vs =>
    match l.value? (vs.take l.leaves.length) with
    | some false => r.value? (vs.drop l.leaves.length)
    | other => other
  | not e, vs => (e.value? vs).map (!·)
  | leaf _, vs => vs.head?.bind fun visit => visit.bind Except.toOption

/-- The `i`-th comparison is in the right operand of a conjunction whose left operand was false, or
of a disjunction whose left operand was true. -/
def Spared : Expr → List Visit → Nat → Prop
  | and l r, vs, i =>
    if i < l.leaves.length then l.Spared (vs.take l.leaves.length) i
    else l.value? (vs.take l.leaves.length) = some false ∨
      r.Spared (vs.drop l.leaves.length) (i - l.leaves.length)
  | or l r, vs, i =>
    if i < l.leaves.length then l.Spared (vs.take l.leaves.length) i
    else l.value? (vs.take l.leaves.length) = some true ∨
      r.Spared (vs.drop l.leaves.length) (i - l.leaves.length)
  | not e, vs, i => e.Spared vs i
  | leaf _, _, _ => False

/-- The `i`-th comparison is behind a decision or behind a failure. -/
def Skipped (e : Expr) (vs : List Visit) (i : Nat) : Prop :=
  e.Spared vs i ∨ ∃ err, some (.error err) ∈ vs.take i

/-- The truth value of an expression whose `i`-th comparison has the value `ν i`. -/
def truth : Expr → (Nat → Bool) → Bool
  | and l r, ν => l.truth ν && r.truth fun i => ν (l.leaves.length + i)
  | or l r, ν => l.truth ν || r.truth fun i => ν (l.leaves.length + i)
  | not e, ν => !e.truth ν
  | leaf _, ν => ν 0

theorem visit_append_right (vs ws : List Visit) (i : Nat) :
    (vs ++ ws)[vs.length + i]? = ws[i]? := by
  rw [List.getElem?_append_right (Nat.le_add_right _ _), Nat.add_sub_cancel_left]

/-- No comparison that was asked failed, and the `i`-th had the value `ν i`. -/
def Fits (ν : Nat → Bool) (vs : List Visit) : Prop :=
  ∀ (i : Nat) (answer : Except QueryError Bool), vs[i]? = some (some answer) → answer = .ok (ν i)

theorem Fits.left {ν : Nat → Bool} {vs ws : List Visit} (h : Fits ν (vs ++ ws)) : Fits ν vs :=
  fun i _ hi => h i _ ((List.getElem?_append_left (List.getElem?_eq_some_iff.1 hi).1).trans hi)

theorem Fits.right {ν : Nat → Bool} {vs ws : List Visit} (h : Fits ν (vs ++ ws)) :
    Fits (fun i => ν (vs.length + i)) ws :=
  fun i _ hi => h (vs.length + i) _ ((visit_append_right vs ws i).trans hi)

/-! ### Conjunctions and disjunctions in one case -/

variable {e l r : Expr} {s s' : σ} {stop : Bool} {vs ws : List Visit} {i : Nat}

theorem value?_junction (h : vs.length = l.leaves.length) :
    (junction stop l r).value? (vs ++ ws) =
      if l.value? vs = some !stop then r.value? ws else l.value? vs := by
  cases stop <;>
    simp only [junction_false, junction_true, value?, List.take_left' h, List.drop_left' h] <;>
    rcases l.value? vs with _ | _ | _ <;> rfl

theorem skipped_junction_left (h : vs.length = l.leaves.length) (hi : i < vs.length) :
    (junction stop l r).Skipped (vs ++ ws) i ↔ l.Skipped vs i := by
  have hspared : (junction stop l r).Spared (vs ++ ws) i ↔ l.Spared vs i := by
    cases stop <;>
      simp only [junction_false, junction_true, Spared, List.take_left' h, h ▸ hi, if_true]
  rw [Skipped, Skipped, hspared, List.take_append_of_le_length hi.le]

theorem skipped_junction_right (h : vs.length = l.leaves.length) (i : Nat) :
    (junction stop l r).Skipped (vs ++ ws) (vs.length + i) ↔
      (l.value? vs = some stop ∨ ∃ err, some (.error err) ∈ vs) ∨ r.Skipped ws i := by
  have hspared : (junction stop l r).Spared (vs ++ ws) (vs.length + i) ↔
      l.value? vs = some stop ∨ r.Spared ws i := by
    have hi := Nat.not_lt.2 (Nat.le_add_right l.leaves.length i)
    rw [h]
    cases stop <;>
      simp only [junction_false, junction_true, Spared, List.take_left' h, List.drop_left' h, hi,
        if_false, Nat.add_sub_cancel_left]
  rw [Skipped, Skipped, hspared, List.take_length_add_append]
  simp only [List.mem_append, exists_or]
  exact or_or_or_comm

theorem truth_junction (ν : Nat → Bool) :
    (junction stop l r).truth ν =
      if l.truth ν = stop then stop else r.truth fun i => ν (l.leaves.length + i) := by
  cases stop <;> simp only [junction_false, junction_true, truth] <;> cases l.truth ν <;> rfl

/-! ### The course of an evaluation -/

/-- The course of an evaluation: from a state, with what comes of every comparison, to an answer and
a state. -/
inductive Walk (ask : Comparison → Answering σ Bool) :
    Expr → σ → List Visit → Except QueryError Bool × σ → Prop
  /-- A comparison is asked. -/
  | leaf (c : Comparison) (s : σ) :
      Walk ask (.leaf c) s [some ((ask c).runFrom s).1] ((ask c).runFrom s)
  /-- A negation turns the answer round. -/
  | not {e : Expr} {s s' : σ} {vs : List Visit} {b : Bool} :
      Walk ask e s vs (.ok b, s') → Walk ask (.not e) s vs (.ok !b, s')
  /-- A negation fails as its operand does. -/
  | notFailed {e : Expr} {s s' : σ} {vs : List Visit} {err : QueryError} :
      Walk ask e s vs (.error err, s') → Walk ask (.not e) s vs (.error err, s')
  /-- The left operand decides. -/
  | decided {stop : Bool} {l : Expr} (r : Expr) {s s' : σ} {vs : List Visit} :
      Walk ask l s vs (.ok stop, s') →
      Walk ask (junction stop l r) s (vs ++ List.replicate r.leaves.length none) (.ok stop, s')
  /-- The left operand fails. -/
  | failed (stop : Bool) {l : Expr} (r : Expr) {s s' : σ} {vs : List Visit} {err : QueryError} :
      Walk ask l s vs (.error err, s') →
      Walk ask (junction stop l r) s (vs ++ List.replicate r.leaves.length none) (.error err, s')
  /-- The left operand does not decide, and the right one goes on where it ended. -/
  | continued {stop : Bool} {l r : Expr} {s s' : σ} {vs ws : List Visit}
      {run : Except QueryError Bool × σ} :
      Walk ask l s vs (.ok !stop, s') → Walk ask r s' ws run →
      Walk ask (junction stop l r) s (vs ++ ws) run

theorem visits_junction (stop : Bool) (l r : Expr) (s : σ) :
    (junction stop l r).visits ask s =
      match (l.evaluate ask).runFrom s with
      | (.ok b, s') => l.visits ask s ++
          if b = stop then List.replicate r.leaves.length none else r.visits ask s'
      | (.error _, _) => l.visits ask s ++ List.replicate r.leaves.length none := by
  cases stop <;> simp only [junction_false, junction_true, visits] <;>
    rcases (l.evaluate ask).runFrom s with ⟨_ | _ | _, s'⟩ <;> rfl

/-- **Every evaluation is a walk.** -/
theorem walk_visits (ask : Comparison → Answering σ Bool) (e : Expr) (s : σ) :
    Walk ask e s (e.visits ask s) ((e.evaluate ask).runFrom s) := by
  induction e using induction_junction generalizing s with
  | leaf c => exact .leaf c s
  | not e ih =>
    have he := ih s
    revert he
    rw [visits, runFrom_evaluate_not]
    rcases (e.evaluate ask).runFrom s with ⟨err | b, s'⟩ <;> intro he
    · exact .notFailed he
    · exact .not he
  | junction stop l r ihl ihr =>
    have hl := ihl s
    revert hl
    rw [visits_junction, runFrom_evaluate_junction]
    rcases (l.evaluate ask).runFrom s with ⟨err | b, s'⟩ <;> intro hl
    · exact .failed stop r hl
    · by_cases hb : b = stop
      · subst hb
        simpa using Walk.decided r hl
      · obtain rfl := Bool.eq_not_of_ne hb
        simpa using Walk.continued hl (ihr s')

namespace Walk

variable {run : Except QueryError Bool × σ}

/-- There is only one walk of an expression from a state. -/
theorem unique (h : Walk ask e s vs run) :
    e.visits ask s = vs ∧ (e.evaluate ask).runFrom s = run := by
  induction h with
  | leaf c s => exact ⟨rfl, rfl⟩
  | not _ ih | notFailed _ ih =>
    obtain ⟨rfl, hrun⟩ := ih
    exact ⟨rfl, by rw [runFrom_evaluate_not, hrun]⟩
  | decided r _ ih | failed stop r _ ih =>
    obtain ⟨rfl, hrun⟩ := ih
    rw [visits_junction, runFrom_evaluate_junction, hrun]
    simp
  | continued _ _ ihl ihr =>
    obtain ⟨rfl, hl⟩ := ihl
    obtain ⟨rfl, rfl⟩ := ihr
    rw [visits_junction, runFrom_evaluate_junction, hl]
    simp

theorem length_eq (h : Walk ask e s vs run) : vs.length = e.leaves.length := by
  induction h with
  | leaf => rfl
  | not _ ih | notFailed _ ih => exact ih
  | decided r _ ih | failed stop r _ ih => simp [leaves_combine, ih]
  | continued _ _ ihl ihr => simp [leaves_combine, ihl, ihr]

/-- The calls that are made are those that the visits tell. -/
theorem runFrom_recorded (h : Walk ask e s vs run) (calls : Calls) :
    (e.evaluate (recorded ask)).runFrom (s, calls) =
      (run.1, run.2, calls ++ callsOf e.leaves vs) := by
  induction h generalizing calls with
  | leaf c s => rfl
  | not _ ih | notFailed _ ih => rw [runFrom_evaluate_not, ih]; rfl
  | decided r h ih | failed stop r h ih =>
    rw [runFrom_evaluate_junction, ih, leaves_combine, callsOf_append h.length_eq.symm]
    simp
  | continued h _ ihl ihr =>
    rw [runFrom_evaluate_junction, ihl, leaves_combine, callsOf_append h.length_eq.symm]
    simp [ihr]

/-! ### Failures -/

/-- A failure shows nowhere if there is an answer, and at the last comparison that was asked if
there is none. -/
def Ends (vs : List Visit) : Except QueryError Bool → Prop
  | .ok _ => ∀ err, some (.error err) ∉ vs
  | .error err => ∃ before n, vs = before ++ some (.error err) :: List.replicate n none ∧
      ∀ err, some (.error err) ∉ before

theorem ends (h : Walk ask e s vs run) : Ends vs run.1 := by
  induction h with
  | leaf c s =>
    rcases ((ask c).runFrom s).1 with err | b
    · exact ⟨[], 0, rfl, by simp⟩
    · simp [Ends]
  | not _ ih => exact ih
  | notFailed _ ih => exact ih
  | decided r _ ih => exact fun err => by simpa using ih err
  | failed stop r _ ih =>
    -- nothing of the right operand is asked, so the failure is still the last visit
    obtain ⟨before, n, rfl, hbefore⟩ := ih
    exact ⟨before, n + r.leaves.length, by simp [List.replicate_append_replicate], hbefore⟩
  | @continued _ _ _ _ _ vs ws run _ _ ihl ihr =>
    rcases run with ⟨err | b, _⟩
    -- the left operand has an answer, so the only failure is that of the right one
    · obtain ⟨before, n, rfl, hbefore⟩ := ihr
      exact ⟨vs ++ before, n, by simp, fun err => by simpa using ⟨ihl err, hbefore err⟩⟩
    · exact fun err => by simpa using ⟨ihl err, ihr err⟩

/-- After a failure nothing is asked, and it is the answer. -/
theorem Ends.last {answer : Except QueryError Bool} {err : QueryError} (h : Ends vs answer)
    (hi : vs[i]? = some (some (.error err))) :
    answer = .error err ∧ ∀ j, i < j → j < vs.length → vs[j]? = some none := by
  obtain err' | b := answer
  · obtain ⟨before, n, rfl, hbefore⟩ := h
    have hnot : ¬ i < before.length := fun hlt => by
      rw [List.getElem?_append_left hlt] at hi
      exact hbefore err (List.mem_of_getElem? hi)
    obtain ⟨k, rfl⟩ := Nat.exists_eq_add_of_le (not_lt.1 hnot)
    rw [visit_append_right] at hi
    obtain - | k := k
    · obtain rfl : err' = err := by simpa using hi
      refine ⟨rfl, fun j hj hlength => ?_⟩
      simp only [List.length_append, List.length_cons, List.length_replicate] at hlength
      obtain ⟨d, rfl⟩ : ∃ d, j = before.length + (d + 1) := ⟨j - before.length - 1, by omega⟩
      rw [visit_append_right, List.getElem?_cons_succ, List.getElem?_replicate, if_pos (by omega)]
    · rw [List.getElem?_cons_succ, List.getElem?_replicate] at hi
      split_ifs at hi
      cases hi
  · exact absurd (List.mem_of_getElem? hi) (h err)

theorem Ends.exists_visit {err : QueryError} (h : Ends vs (.error err)) :
    ∃ i : Nat, vs[i]? = some (some (.error err)) := by
  obtain ⟨before, n, rfl, -⟩ := h
  exact ⟨before.length, by simp⟩

/-! ### Values -/

/-- The answer is what the expression comes to by the visits. -/
theorem value?_eq (h : Walk ask e s vs run) : e.value? vs = run.1.toOption := by
  induction h with
  | leaf c s => rfl
  | not _ ih | notFailed _ ih => rw [value?, ih]; rfl
  | decided r h ih | failed stop r h ih =>
    rw [value?_junction h.length_eq, ih]
    simp [Except.toOption]
  | continued h _ ihl ihr =>
    rw [value?_junction h.length_eq, ihl, ihr]
    simp [Except.toOption]

/-- If the comparisons that are asked have the values of a valuation, the answer is the truth value
under it. -/
theorem answer_eq_truth (h : Walk ask e s vs run) {ν : Nat → Bool} (hν : Fits ν vs) :
    run.1 = .ok (e.truth ν) := by
  induction h generalizing ν with
  | leaf c s => exact hν 0 _ rfl
  | not _ ih =>
    rw [truth, ← Except.ok.inj (ih hν)]
  | notFailed _ ih => exact nomatch ih hν
  | decided r h ih =>
    rw [truth_junction, ← Except.ok.inj (ih hν.left)]
    simp
  | failed stop r h ih => exact nomatch ih hν.left
  | continued h _ ihl ihr =>
    rw [truth_junction, ← Except.ok.inj (ihl hν.left), ihr hν.right, h.length_eq]
    simp

/-! ### What is not asked -/

theorem skipped_right (h : Walk ask l s vs run) (i : Nat) :
    (junction stop l r).Skipped (vs ++ ws) (vs.length + i) ↔
      run.1 ≠ .ok !stop ∨ r.Skipped ws i := by
  rw [skipped_junction_right h.length_eq, h.value?_eq]
  have hends := h.ends
  rcases run with ⟨err | b, _⟩
  · obtain ⟨before, n, rfl, -⟩ := hends
    simp [Except.toOption]
  · have hfailed : ¬ ∃ err, some (.error err) ∈ vs := fun ⟨err, hmem⟩ => hends err hmem
    simp [Except.toOption, hfailed]

/-- **A comparison is not asked if it is behind a decision or a failure**, and only then. -/
theorem visit_eq_none_iff (h : Walk ask e s vs run) (hi : i < vs.length) :
    vs[i]? = some none ↔ e.Skipped vs i := by
  induction h generalizing i with
  | leaf c s =>
    obtain rfl : i = 0 := by simpa using hi
    simp [Skipped, Spared]
  | not _ ih | notFailed _ ih => exact ih hi
  | @decided stop l r s s' vs h ih | @failed stop l r s s' vs err h ih =>
    rcases lt_or_ge i vs.length with hlt | hge
    · rw [skipped_junction_left h.length_eq hlt, List.getElem?_append_left hlt, ih hlt]
    · obtain ⟨k, rfl⟩ := Nat.exists_eq_add_of_le hge
      have hk : k < r.leaves.length := by simpa using hi
      simp [h.skipped_right, hk]
  | @continued stop l r s s' vs ws run h _ ihl ihr =>
    rcases lt_or_ge i vs.length with hlt | hge
    · rw [skipped_junction_left h.length_eq hlt, List.getElem?_append_left hlt, ihl hlt]
    · obtain ⟨k, rfl⟩ := Nat.exists_eq_add_of_le hge
      rw [h.skipped_right, visit_append_right, ihr (by simpa using hi)]
      simp

theorem modifyLeaf (h : Walk ask e s vs run) (hi : vs[i]? = some none)
    (f : Comparison → Comparison) : Walk ask (e.modifyLeaf f i) s vs run := by
  induction h generalizing i with
  | leaf c s => cases i <;> simp at hi
  | not _ ih => exact .not (ih hi)
  | notFailed _ ih => exact .notFailed (ih hi)
  | @decided stop l r s s' vs h ih =>
    rw [modifyLeaf_combine, ← h.length_eq]
    split_ifs with hlt
    · rw [List.getElem?_append_left hlt] at hi
      exact .decided r (ih hi)
    · simpa using decided (r.modifyLeaf f (i - vs.length)) h
  | @failed stop l r s s' vs err h ih =>
    rw [modifyLeaf_combine, ← h.length_eq]
    split_ifs with hlt
    · rw [List.getElem?_append_left hlt] at hi
      exact .failed stop r (ih hi)
    · simpa using failed stop (r.modifyLeaf f (i - vs.length)) h
  | @continued stop l r s s' vs ws run h h' ihl ihr =>
    rw [modifyLeaf_combine, ← h.length_eq]
    split_ifs with hlt
    · rw [List.getElem?_append_left hlt] at hi
      exact .continued (ihl hi) h'
    · rw [List.getElem?_append_right (not_lt.1 hlt)] at hi
      exact .continued h (ihr hi)

end Walk

/-! ### The result -/

/-- How an expression is evaluated from a state. -/
structure Orderly (ask : Comparison → Answering σ Bool) (e : Expr) (s : σ) : Prop where
  /-- The visits are what is really asked: a record of the calls changes nothing, and the calls are
  those that the visits tell. -/
  log : ∀ calls, (e.evaluate (recorded ask)).runFrom (s, calls) =
    (((e.evaluate ask).runFrom s).1, ((e.evaluate ask).runFrom s).2,
      calls ++ callsOf e.leaves (e.visits ask s))
  /-- Every comparison is visited once, so it is asked once or not at all. -/
  once : (e.visits ask s).length = e.leaves.length
  /-- What is asked is asked from left to right. -/
  order : ((callsOf e.leaves (e.visits ask s)).map Prod.fst).Sublist e.leaves
  /-- The comparisons that are not asked are those in the right operand of a conjunction whose left
  operand was false or of a disjunction whose left operand was true, and those behind one that
  failed. -/
  skipped : ∀ i < e.leaves.length, (e.visits ask s)[i]? = some none ↔
    e.Spared (e.visits ask s) i ∨ ∃ err, some (.error err) ∈ (e.visits ask s).take i
  /-- The answer is what the expression comes to by its visits. -/
  value : e.value? (e.visits ask s) = ((e.evaluate ask).runFrom s).1.toOption
  /-- The first failure is the last call, and it is the answer. -/
  failure : ∀ (i : Nat) err, (e.visits ask s)[i]? = some (some (.error err)) →
    ((e.evaluate ask).runFrom s).1 = .error err ∧
      ∀ j, i < j → j < e.leaves.length → (e.visits ask s)[j]? = some none
  /-- There is no failure but that of a comparison. -/
  origin : ∀ err, ((e.evaluate ask).runFrom s).1 = .error err →
    ∃ i : Nat, (e.visits ask s)[i]? = some (some (.error err))
  /-- Another comparison in the place of one that is not asked makes no difference. -/
  unasked : ∀ (i : Nat) c, (e.visits ask s)[i]? = some none →
    (e.modifyLeaf (fun _ => c) i).visits ask s = e.visits ask s ∧
      ((e.modifyLeaf (fun _ => c) i).evaluate ask).runFrom s = (e.evaluate ask).runFrom s
  /-- The answer is the truth value under every valuation that the answers to comparisons fit. -/
  truth : ∀ ν : Nat → Bool, Fits ν (e.visits ask s) →
    ((e.evaluate ask).runFrom s).1 = .ok (e.truth ν)

/-- **Every evaluation is orderly**, whatever the comparisons do to the state and however their
answers and failures depend on it. -/
theorem orderly (ask : Comparison → Answering σ Bool) (e : Expr) (s : σ) : Orderly ask e s := by
  have h := walk_visits ask e s
  have hlength := h.length_eq
  exact {
    log := h.runFrom_recorded
    once := hlength
    order := callsOf_sublist _ _
    skipped := fun i hi => h.visit_eq_none_iff (hlength ▸ hi)
    value := h.value?_eq
    failure := fun i err hi => hlength ▸ h.ends.last hi
    origin := fun err herr => Walk.Ends.exists_visit (herr ▸ h.ends)
    unasked := fun i c hi => (h.modifyLeaf hi fun _ => c).unique
    truth := fun _ hν => h.answer_eq_truth hν }

end Expr

end FleetQuery
