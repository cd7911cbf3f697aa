import FleetQuery.Match.Evaluate
import FleetQuery.Proofs.Filter.Leaves

/-!
# Evaluation step by step

An evaluation is a run through some of the comparisons, so what is known of one comparison is
carried to a whole evaluation once and for all:

* `Answering.runFrom` : the answer of an action started in a state, and the state it leaves;
* `Expr.evaluate_invariant` : a relation between states and runs that is closed under composition
  holds of every evaluation, if it holds of every comparison;
* `Expr.evaluate_agrees` : two ways of answering comparisons that agree on every comparison agree
  on every expression;
* `Expr.verdict` : the answer when no comparison needs a state;
* `Call.answerAll` : the answers to comparisons and filters in any order.
-/

namespace FleetQuery

/-! ### Runs -/

namespace Answering

variable {σ α β : Type}

/-- The answer of an action started in a state, and the state it leaves. -/
def runFrom (x : Answering σ α) (s : σ) : Except QueryError α × σ := x.run.run s

theorem ext {x y : Answering σ α} (h : ∀ s, x.runFrom s = y.runFrom s) : x = y :=
  ExceptT.ext (funext h)

theorem runFrom_bind (x : Answering σ α) (f : α → Answering σ β) (s : σ) :
    Answering.runFrom (x >>= f) s =
      match x.runFrom s with
      | (.ok a, s') => (f a).runFrom s'
      | (.error err, s') => (.error err, s') := by
  simp only [runFrom, ExceptT.run_bind, StateT.run_bind]
  rcases x.run.run s with ⟨answer | answer, s'⟩ <;> rfl

end Answering

namespace Expr

open Answering

variable {σ τ : Type} {ask : Comparison → Answering σ Bool} {ask' : Comparison → Answering τ Bool}

/-- What goes along with sequences of actions goes along with evaluation. -/
theorem map_evaluate {m n : Type → Type} [Monad m] [Monad n] (f : ∀ {α : Type}, m α → n α)
    (hpure : ∀ {α : Type} (a : α), f (pure a) = pure a)
    (hbind : ∀ {α β : Type} (x : m α) (g : α → m β), f (x >>= g) = f x >>= fun a => f (g a))
    (ask : Comparison → m Bool) (e : Expr) :
    f (e.evaluate ask) = e.evaluate fun c => f (ask c) := by
  induction e with
  | leaf c => rfl
  | not e ih => simp only [evaluate, hbind, hpure, ih]
  | and l r ihl ihr =>
    rw [evaluate, hbind, ihl, evaluate]
    congr
    funext b
    cases b
    · exact hpure false
    · exact ihr
  | or l r ihl ihr =>
    rw [evaluate, hbind, ihl, evaluate]
    congr
    funext b
    cases b
    · exact ihr
    · exact hpure true

/-! ### Junctions -/

/-- The sort of chain that stops at an answer. -/
def stoppingChain : Bool → Chain
  | false => .and
  | true => .or

/-- A conjunction or a disjunction, by the answer that it stops at. -/
abbrev junction (stop : Bool) : Expr → Expr → Expr := (stoppingChain stop).combine

/-- Conjunctions and disjunctions in one case. -/
@[elab_as_elim]
theorem induction_junction {motive : Expr → Prop} (leaf : ∀ c, motive (.leaf c))
    (not : ∀ e, motive e → motive (.not e))
    (junction : ∀ stop l r, motive l → motive r → motive (junction stop l r)) (e : Expr) :
    motive e := by
  induction e using induction_combine with
  | leaf c => exact leaf c
  | not e ih => exact not e ih
  | combine k l r ihl ihr =>
    cases k with
    | and => exact junction false l r ihl ihr
    | or => exact junction true l r ihl ihr

theorem junction_false (l r : Expr) : junction false l r = .and l r := rfl

theorem junction_true (l r : Expr) : junction true l r = .or l r := rfl

theorem runFrom_evaluate_junction (stop : Bool) (l r : Expr) (s : σ) :
    Answering.runFrom ((junction stop l r).evaluate ask) s =
      match (l.evaluate ask).runFrom s with
      | (.ok b, s') => if b = stop then (.ok b, s') else (r.evaluate ask).runFrom s'
      | (.error err, s') => (.error err, s') := by
  cases stop with
  | false =>
    rw [junction_false, evaluate, runFrom_bind]
    rcases (l.evaluate ask).runFrom s with ⟨err | b, s'⟩
    · rfl
    · cases b <;> rfl
  | true =>
    rw [junction_true, evaluate, runFrom_bind]
    rcases (l.evaluate ask).runFrom s with ⟨err | b, s'⟩
    · rfl
    · cases b <;> rfl

theorem runFrom_evaluate_not (e : Expr) (s : σ) :
    Answering.runFrom ((not e).evaluate ask) s =
      match (e.evaluate ask).runFrom s with
      | (.ok b, s') => (.ok !b, s')
      | (.error err, s') => (.error err, s') := by
  rw [evaluate, runFrom_bind]
  rcases (e.evaluate ask).runFrom s with ⟨err | b, s'⟩ <;> rfl

/-! ### Invariants -/

/-- A relation between the state before a run and the run's answer and final state is closed
under composition: an answer that is no failure may be changed, and a run may go on where it
ended. -/
structure Closed (T : σ → Except QueryError Bool × σ → Prop) : Prop where
  /-- Only failures are told apart. -/
  change : ∀ {s s' : σ} {b : Bool} (b' : Bool), T s (.ok b, s') → T s (.ok b', s')
  /-- A run goes on where it ended, if it did not fail. -/
  append : ∀ {s s' : σ} {b : Bool} {run : Except QueryError Bool × σ},
    T s (.ok b, s') → T s' run → T s run

/-- **What every comparison does, an evaluation does.** -/
theorem evaluate_invariant {T : σ → Except QueryError Bool × σ → Prop} (hT : Closed T) {e : Expr}
    (hask : ∀ c ∈ e.leaves, ∀ s, T s ((ask c).runFrom s)) (s : σ) :
    T s ((e.evaluate ask).runFrom s) := by
  induction e using induction_junction generalizing s with
  | leaf c => exact hask c (by simp [leaves]) s
  | not e ih =>
    have he := ih hask s
    revert he
    rw [runFrom_evaluate_not]
    rcases (e.evaluate ask).runFrom s with ⟨err | b, s'⟩ <;> intro he
    · exact he
    · exact hT.change _ he
  | junction stop l r ihl ihr =>
    rw [leaves_combine] at hask
    have hl := ihl (fun c hc => hask c (List.mem_append_left _ hc)) s
    have hr := ihr (fun c hc => hask c (List.mem_append_right _ hc))
    revert hl
    rw [runFrom_evaluate_junction]
    rcases (l.evaluate ask).runFrom s with ⟨err | b, s'⟩ <;> intro hl
    · exact hl
    -- the second operand is asked, from where the first one ended, unless the first one decides
    · by_cases hb : b = stop
      · simpa only [hb, if_true] using hl
      · simpa only [hb, if_false] using hT.append hl (hr s')

/-- An evaluation fails as one of its comparisons does. -/
theorem evaluate_error {P : QueryError → Prop} {e : Expr}
    (hask : ∀ c ∈ e.leaves, ∀ s err, ((ask c).runFrom s).1 = .error err → P err)
    {s : σ} {err : QueryError} (h : ((e.evaluate ask).runFrom s).1 = .error err) : P err := by
  have hT : Closed fun (_ : σ) (run : Except QueryError Bool × σ) =>
      ∀ err, run.1 = .error err → P err := by
    refine ⟨fun _ _ err h => ?_, fun _ hrun => hrun⟩
    cases h
  exact evaluate_invariant hT hask s err h

/-! ### Agreement -/

/-- Two runs agree: they give the same answer and leave states related by `Q`, which are related
by `R` too unless the answer is a failure. -/
inductive Agree (R Q : σ → τ → Prop) :
    Except QueryError Bool × σ → Except QueryError Bool × τ → Prop
  /-- Both fail, in the same way. -/
  | failed {err : QueryError} {s : σ} {t : τ} : Q s t → Agree R Q (.error err, s) (.error err, t)
  /-- Both answer, and can go on. -/
  | answered {b : Bool} {s : σ} {t : τ} : Q s t → R s t → Agree R Q (.ok b, s) (.ok b, t)

theorem Agree.of_states {R : σ → τ → Prop} {s : σ} {t : τ} (answer : Except QueryError Bool)
    (h : R s t) : Agree R R (answer, s) (answer, t) := by
  cases answer with
  | error err => exact .failed h
  | ok b => exact .answered h h

theorem Agree.imp {R Q Q' : σ → τ → Prop} {x : Except QueryError Bool × σ}
    {y : Except QueryError Bool × τ} (h : Agree R Q x y) (hq : ∀ s t, Q s t → Q' s t) :
    Agree R Q' x y := by
  cases h with
  | failed h => exact .failed (hq _ _ h)
  | answered h hr => exact .answered (hq _ _ h) hr

theorem Agree.answer_eq {R Q : σ → τ → Prop} {x : Except QueryError Bool × σ}
    {y : Except QueryError Bool × τ} (h : Agree R Q x y) : x.1 = y.1 := by
  cases h <;> rfl

theorem Agree.final {R Q : σ → τ → Prop} {x : Except QueryError Bool × σ}
    {y : Except QueryError Bool × τ} (h : Agree R Q x y) : Q x.2 y.2 := by
  cases h with
  | failed hq => exact hq
  | answered hq _ => exact hq

/-- **Ways of answering that agree on comparisons agree on expressions.**  The relation `R`
carries the induction; after a failure there is nothing to carry it to, and `Q` is all that is
left. -/
theorem evaluate_agrees {R Q : σ → τ → Prop}
    (hask : ∀ c s t, R s t → Agree R Q ((ask c).runFrom s) ((ask' c).runFrom t))
    (e : Expr) {s : σ} {t : τ} (h : R s t) :
    Agree R Q ((e.evaluate ask).runFrom s) ((e.evaluate ask').runFrom t) := by
  induction e using induction_junction generalizing s t with
  | leaf c => exact hask c s t h
  | not e ih =>
    have he := ih h
    rw [runFrom_evaluate_not, runFrom_evaluate_not]
    revert he
    generalize (e.evaluate ask).runFrom s = x, (e.evaluate ask').runFrom t = y
    rintro (hq | ⟨hq, hr⟩)
    · exact .failed hq
    · exact .answered hq hr
  | junction stop l r ihl ihr =>
    have hl := ihl h
    rw [runFrom_evaluate_junction, runFrom_evaluate_junction]
    revert hl
    generalize (l.evaluate ask).runFrom s = x, (l.evaluate ask').runFrom t = y
    rintro (hq | @⟨b, s', t', hq, hr⟩)
    · exact .failed hq
    -- the answers to the first operand are the same, so both runs stop here or neither does
    · by_cases hb : b = stop
      · simpa only [hb, if_true] using Agree.answered hq hr
      · simpa only [hb, if_false] using ihr hr

/-! ### Evaluation without a state -/

/-- The answer to an expression whose comparisons need no state: from left to right, `&` stops at
the first operand that is false, `|` at the first that is true, and everything at the first
failure. -/
def verdict (answer : Comparison → Except QueryError Bool) : Expr → Except QueryError Bool
  | and l r => do if ← l.verdict answer then r.verdict answer else pure false
  | or l r => do if ← l.verdict answer then pure true else r.verdict answer
  | not e => do pure !(← e.verdict answer)
  | leaf c => answer c

/-- Answer a comparison and leave the state alone. -/
def stateless (answer : Comparison → Except QueryError Bool) (c : Comparison) : Answering σ Bool :=
  ExceptT.mk fun s => (answer c, s)

/-- Comparisons that leave the state alone leave it alone in expressions too. -/
theorem runFrom_evaluate_stateless (answer : Comparison → Except QueryError Bool) (e : Expr)
    (s : σ) : Answering.runFrom (e.evaluate (stateless answer)) s = (e.verdict answer, s) := by
  induction e using induction_junction with
  | leaf c => rfl
  | not e ih =>
    rw [runFrom_evaluate_not, ih, verdict]
    cases e.verdict answer <;> rfl
  | junction stop l r ihl ihr =>
    rw [runFrom_evaluate_junction, ihl]
    cases stop with
    | false =>
      rw [junction_false, verdict]
      rcases l.verdict answer with err | b
      · rfl
      · cases b with
        | false => rfl
        | true => exact ihr
    | true =>
      rw [junction_true, verdict]
      rcases l.verdict answer with err | b
      · rfl
      · cases b with
        | false => exact ihr
        | true => rfl

end Expr

/-! ### Sequences of calls -/

/-- A call on an entity. -/
inductive Call
  /-- One comparison, whether or not a schema allows it. -/
  | is (comparison : Comparison)
  /-- A whole filter. -/
  | filter (expr : Expr)
  deriving DecidableEq, Repr

namespace Call

variable {σ τ : Type} {ask : Comparison → Answering σ Bool} {ask' : Comparison → Answering τ Bool}

/-- The answer to a call. -/
def answer (ask : Comparison → Answering σ Bool) : Call → Answering σ Bool
  | is c => ask c
  | filter e => e.evaluate ask

/-- The answers to calls that are made one after the other, and the state at the end.  A call that
fails does not keep the next one from being made. -/
def answerAll (ask : Comparison → Answering σ Bool) :
    List Call → σ → List (Except QueryError Bool) × σ
  | [], s => ([], s)
  | call :: calls, s =>
    let (answer, s) := (call.answer ask).runFrom s
    let (answers, s) := answerAll ask calls s
    (answer :: answers, s)

theorem exists_answer_eq_evaluate (call : Call) :
    ∃ e : Expr, ∀ {σ : Type} (ask : Comparison → Answering σ Bool),
      call.answer ask = e.evaluate ask := by
  cases call with
  | is c => exact ⟨.leaf c, fun _ => rfl⟩
  | filter e => exact ⟨e, fun _ => rfl⟩

theorem answerAll_cons (call : Call) (calls : List Call) (s : σ) :
    answerAll ask (call :: calls) s =
      (((call.answer ask).runFrom s).1 :: (answerAll ask calls ((call.answer ask).runFrom s).2).1,
        (answerAll ask calls ((call.answer ask).runFrom s).2).2) := rfl

/-- What every call preserves, a sequence of calls preserves. -/
theorem answerAll_invariant {I : σ → Prop}
    (hcall : ∀ (call : Call) s, I s → I ((call.answer ask).runFrom s).2) (calls : List Call) {s : σ}
    (hs : I s) : I (answerAll ask calls s).2 := by
  induction calls generalizing s with
  | nil => exact hs
  | cons call calls ih => exact ih (hcall call s hs)

theorem answerAll_agrees {R : σ → τ → Prop}
    (hask : ∀ c s t, R s t → Expr.Agree R R ((ask c).runFrom s) ((ask' c).runFrom t))
    (calls : List Call) {s : σ} {t : τ} (h : R s t) :
    (answerAll ask calls s).1 = (answerAll ask' calls t).1 ∧
      R (answerAll ask calls s).2 (answerAll ask' calls t).2 := by
  induction calls generalizing s t with
  | nil => exact ⟨rfl, h⟩
  | cons call calls ih =>
    obtain ⟨e, he⟩ := call.exists_answer_eq_evaluate
    have hagree := Expr.evaluate_agrees hask e h
    rw [← he ask, ← he ask'] at hagree
    -- the next call is made also after a failure, so the states at the end have to be related
    obtain ⟨hanswers, hstates⟩ := ih hagree.final
    rw [answerAll_cons, answerAll_cons, hagree.answer_eq, hanswers]
    exact ⟨rfl, hstates⟩

end Call

end FleetQuery
