import FleetQuery.Proofs.Match.Walk

/-!
# Laws of the connectives

Chains may be bracketed in either way, two negations are none, and a negation may be moved over `&`
and `|`.  These laws hold of the evaluation itself and not only of truth values: the two sides ask
the same comparisons in the same order, fail alike and leave the same state, however the answers
depend on the calls before.

* `Expr.Partner` : the two sides of a law;
* `Expr.Context` : an expression with one subexpression left out;
* `Expr.Alike` : two expressions ask, answer and leave the state alike, from every state;
* `Expr.Indistinct`, `Expr.indistinct_fill` : **replacing a subexpression by its partner changes
  nothing that can be observed.**

A law is proved by taking the same walk through both of its sides, one step for each way in which an
operand can end.
-/

namespace FleetQuery

open Answering

namespace Expr

/-! ### Definitions -/

/-- The two sides of a law. -/
inductive Partner : Expr → Expr → Prop
  /-- A conjunction of three, bracketed from the left or from the right. -/
  | andAssoc (a b c : Expr) : Partner (.and (.and a b) c) (.and a (.and b c))
  /-- A disjunction of three, bracketed from the left or from the right. -/
  | orAssoc (a b c : Expr) : Partner (.or (.or a b) c) (.or a (.or b c))
  /-- Two negations are none. -/
  | notNot (a : Expr) : Partner (.not (.not a)) a
  /-- A negated conjunction is the disjunction of the negations. -/
  | notAnd (a b : Expr) : Partner (.not (.and a b)) (.or (.not a) (.not b))
  /-- A negated disjunction is the conjunction of the negations. -/
  | notOr (a b : Expr) : Partner (.not (.or a b)) (.and (.not a) (.not b))

/-- An expression with one subexpression left out. -/
inductive Context
  /-- The whole expression is left out. -/
  | hole
  /-- Something is left out of the left operand of a conjunction. -/
  | andLeft (left : Context) (right : Expr)
  /-- Something is left out of the right operand of a conjunction. -/
  | andRight (left : Expr) (right : Context)
  /-- Something is left out of the left operand of a disjunction. -/
  | orLeft (left : Context) (right : Expr)
  /-- Something is left out of the right operand of a disjunction. -/
  | orRight (left : Expr) (right : Context)
  /-- Something is left out below a negation. -/
  | not (operand : Context)
  deriving DecidableEq, Repr

/-- Put an expression into the place that was left out. -/
def Context.fill : Context → Expr → Expr
  | hole, e => e
  | andLeft k r, e => .and (k.fill e) r
  | andRight l k, e => .and l (k.fill e)
  | orLeft k r, e => .or (k.fill e) r
  | orRight l k, e => .or l (k.fill e)
  | not k, e => .not (k.fill e)

variable {σ : Type} {ask : Comparison → Answering σ Bool} {e e' l l' r r' : Expr} {s : σ}

/-- From every state, the expressions ask the same ones of the same comparisons, and give the same
answer and leave the same state. -/
structure Alike (ask : Comparison → Answering σ Bool) (e e' : Expr) : Prop where
  /-- The comparisons are the same, from left to right. -/
  leaves : e.leaves = e'.leaves
  /-- The same ones are asked, and with the same answers. -/
  visits : ∀ s, e.visits ask s = e'.visits ask s
  /-- The answer and the state that is left are the same. -/
  run : ∀ s, (e.evaluate ask).runFrom s = (e'.evaluate ask).runFrom s

/-- What can be observed of two evaluations from a state is the same. -/
structure Indistinct (ask : Comparison → Answering σ Bool) (e e' : Expr) (s : σ) : Prop where
  /-- The answer or the failure. -/
  answer : ((e.evaluate ask).runFrom s).1 = ((e'.evaluate ask).runFrom s).1
  /-- The state that is left. -/
  state : ((e.evaluate ask).runFrom s).2 = ((e'.evaluate ask).runFrom s).2
  /-- The record of the calls, in their order and with their answers. -/
  calls : ((e.evaluate (recorded ask)).runFrom (s, [])).2.2 =
    ((e'.evaluate (recorded ask)).runFrom (s, [])).2.2
  /-- Which occurrences of comparisons were asked, if one comparison occurs more than once. -/
  occurrences : e.leaves.zip (e.visits ask s) = e'.leaves.zip (e'.visits ask s)

/-! ### Congruence -/

theorem Alike.refl (ask : Comparison → Answering σ Bool) (e : Expr) : Alike ask e e :=
  ⟨rfl, fun _ => rfl, fun _ => rfl⟩

theorem Alike.not (h : Alike ask e e') : Alike ask (.not e) (.not e') where
  leaves := h.leaves
  visits := h.visits
  run s := by rw [runFrom_evaluate_not, runFrom_evaluate_not, h.run]

theorem Alike.junction (stop : Bool) (hl : Alike ask l l') (hr : Alike ask r r') :
    Alike ask (junction stop l r) (junction stop l' r') where
  leaves := by rw [leaves_combine, leaves_combine, hl.leaves, hr.leaves]
  visits s := by simp only [visits_junction, hl.visits, hl.run, hr.visits, hr.leaves]
  run s := by simp only [runFrom_evaluate_junction, hl.run, hr.run]

/-- **Expressions that are evaluated alike stay so in every context**, by induction on the
context. -/
theorem Alike.fill (h : Alike ask e e') (k : Context) : Alike ask (k.fill e) (k.fill e') := by
  induction k with
  | hole => exact h
  | andLeft k r ih => exact ih.junction false (.refl ask r)
  | andRight l k ih => exact (Alike.refl ask l).junction false ih
  | orLeft k r ih => exact ih.junction true (.refl ask r)
  | orRight l k ih => exact (Alike.refl ask l).junction true ih
  | not k ih => exact ih.not

theorem Alike.indistinct (h : Alike ask e e') (s : σ) : Indistinct ask e e' s where
  answer := by rw [h.run]
  state := by rw [h.run]
  calls := by
    rw [(orderly ask e s).log, (orderly ask e' s).log, h.leaves, h.visits]
  occurrences := by rw [h.leaves, h.visits]

/-! ### The laws -/

/-- There is a walk that leads through both expressions. -/
def Together (ask : Comparison → Answering σ Bool) (e e' : Expr) (s : σ) : Prop :=
  ∃ vs run, Walk ask e s vs run ∧ Walk ask e' s vs run

theorem Alike.of_together (hleaves : e.leaves = e'.leaves)
    (h : ∀ s, Together ask e e' s) : Alike ask e e' := by
  refine ⟨hleaves, fun s => ?_, fun s => ?_⟩ <;> obtain ⟨vs, run, hwalk, hwalk'⟩ := h s
  · exact hwalk.unique.1.trans hwalk'.unique.1.symm
  · exact hwalk.unique.2.trans hwalk'.unique.2.symm

theorem walk_cases (ask : Comparison → Answering σ Bool) (e : Expr) (s : σ) (stop : Bool) :
    (∃ vs s', Walk ask e s vs (.ok stop, s')) ∨ (∃ vs s', Walk ask e s vs (.ok !stop, s')) ∨
      ∃ vs err s', Walk ask e s vs (.error err, s') := by
  have h := walk_visits ask e s
  rcases hrun : (e.evaluate ask).runFrom s with ⟨err | b, s'⟩ <;> rw [hrun] at h
  · exact .inr (.inr ⟨_, err, s', h⟩)
  · by_cases hb : b = stop
    · exact .inl ⟨_, s', hb ▸ h⟩
    · exact .inr (.inl ⟨_, s', Bool.eq_not_of_ne hb ▸ h⟩)

/-- The comparisons behind a decision or a failure are left out at once or one operand after the
other. -/
theorem replicate_leaves_junction (stop : Bool) (l r : Expr) :
    List.replicate (junction stop l r).leaves.length (none : Visit) =
      List.replicate l.leaves.length none ++ List.replicate r.leaves.length none := by
  rw [leaves_combine, List.length_append, List.replicate_append_replicate]

theorem alike_assoc (ask : Comparison → Answering σ Bool) (stop : Bool) (a b c : Expr) :
    Alike ask (junction stop (junction stop a b) c) (junction stop a (junction stop b c)) := by
  refine .of_together (by simp [leaves_combine]) fun s => ?_
  rcases walk_cases ask a s stop with ⟨vs, s₁, ha⟩ | ⟨vs, s₁, ha⟩ | ⟨vs, err, s₁, ha⟩
  -- `a` decides, and neither `b` nor `c` is asked
  · refine ⟨_, _, (ha.decided b).decided c, ?_⟩
    simpa [replicate_leaves_junction] using ha.decided (junction stop b c)
  · rcases walk_cases ask b s₁ stop with ⟨ws, s₂, hb⟩ | ⟨ws, s₂, hb⟩ | ⟨ws, err, s₂, hb⟩
    · refine ⟨_, _, (ha.continued hb).decided c, ?_⟩
      simpa using ha.continued (hb.decided c)
    · refine ⟨_, _, (ha.continued hb).continued (walk_visits ask c s₂), ?_⟩
      simpa using ha.continued (hb.continued (walk_visits ask c s₂))
    · refine ⟨_, _, (ha.continued hb).failed stop c, ?_⟩
      simpa using ha.continued (hb.failed stop c)
  · refine ⟨_, _, (ha.failed stop b).failed stop c, ?_⟩
    simpa [replicate_leaves_junction] using ha.failed stop (junction stop b c)

theorem alike_notNot (ask : Comparison → Answering σ Bool) (a : Expr) :
    Alike ask (.not (.not a)) a := by
  refine .of_together rfl fun s => ?_
  rcases walk_cases ask a s true with ⟨vs, s', ha⟩ | ⟨vs, s', ha⟩ | ⟨vs, err, s', ha⟩
  · exact ⟨_, _, ha.not.not, ha⟩
  · exact ⟨_, _, ha.not.not, ha⟩
  · exact ⟨_, _, ha.notFailed.notFailed, ha⟩

/-- A negation turns round the answer that a junction stops at. -/
theorem alike_not_junction (ask : Comparison → Answering σ Bool) (stop : Bool) (a b : Expr) :
    Alike ask (.not (junction stop a b)) (junction (!stop) (.not a) (.not b)) := by
  refine .of_together (by simp [leaves, leaves_combine]) fun s => ?_
  rcases walk_cases ask a s stop with ⟨vs, s₁, ha⟩ | ⟨vs, s₁, ha⟩ | ⟨vs, err, s₁, ha⟩
  · exact ⟨_, _, (ha.decided b).not, ha.not.decided (.not b)⟩
  · rcases walk_cases ask b s₁ true with ⟨ws, s₂, hb⟩ | ⟨ws, s₂, hb⟩ | ⟨ws, err, s₂, hb⟩
    · exact ⟨_, _, (ha.continued hb).not, ha.not.continued hb.not⟩
    · exact ⟨_, _, (ha.continued hb).not, ha.not.continued hb.not⟩
    · exact ⟨_, _, (ha.continued hb).notFailed, ha.not.continued hb.notFailed⟩
  · exact ⟨_, _, (ha.failed stop b).notFailed, ha.notFailed.failed (!stop) (.not b)⟩

theorem Partner.alike (h : Partner e e') (ask : Comparison → Answering σ Bool) :
    Alike ask e e' := by
  cases h with
  | andAssoc a b c => exact alike_assoc ask false a b c
  | orAssoc a b c => exact alike_assoc ask true a b c
  | notNot => exact alike_notNot ask e'
  | notAnd a b => exact alike_not_junction ask false a b
  | notOr a b => exact alike_not_junction ask true a b

/-- **Replacing a subexpression by its partner changes nothing that can be observed**: not the
answer or the failure, not the comparisons that are asked and their order, and not the state,
whatever the comparisons do to it and however their answers depend on it. -/
theorem indistinct_fill {e e' : Expr} (h : Partner e e') (k : Context) {σ : Type}
    (ask : Comparison → Answering σ Bool) (s : σ) : Indistinct ask (k.fill e) (k.fill e') s :=
  ((h.alike ask).fill k).indistinct s

/-- A negation is moved over the conjunction in `x | !(a & b)`.  Answers alternate with the number
of calls before, and the third call fails: `x` and `a` are asked and then `b`, whose failure it
is. -/
theorem indistinct_fill_third_fails :
    let leaf (name : String) : Expr := .leaf ⟨.named name, .is, ""⟩
    let ask : Comparison → Answering Nat Bool := fun c => ExceptT.mk fun n =>
      (if n = 2 then .error (.invalidField c.field.display) else .ok (n % 2 == 1), n + 1)
    let k : Context := .orRight (leaf "x") .hole
    let e : Expr := .not (.and (leaf "a") (leaf "b"))
    let e' : Expr := .or (.not (leaf "a")) (.not (leaf "b"))
    Partner e e' ∧ Indistinct ask (k.fill e) (k.fill e') 0 ∧
      ((k.fill e').evaluate ask).runFrom 0 = (.error (.invalidField "b"), 3) := by
  intro leaf ask k e e'
  have h : Partner e e' := .notAnd (leaf "a") (leaf "b")
  exact ⟨h, indistinct_fill h k ask 0, rfl⟩

end Expr

end FleetQuery
