import FleetQuery.Proofs.Entity.Matching

/-!
# Scans by the clock of a system

On a running system the clock is read when a comparison looks at it, and what is read and what is
logged may change the state of the system.  A scan there still answers as one does that is given its
instants:

* `Clock.listed` : a clock that gives the instants of a list;
* `Replays` : one action does with some instants what another one does with a state, whatever
  instants follow;
* `replays_scanM` : **what a scan of a snapshot gives on any system, `scanAt` gives** at instants
  that the clock of the system gives in some of its states.

So what holds of `scanAt` for all clocks holds of the scans of a system.
-/

namespace FleetQuery

open Answering

variable {S D σ τ α β : Type}

/-- The clock that gives the instants of a list, and after them always the same. -/
def Clock.listed (last : Instant) : Clock (List Instant) :=
  fun instants => (instants.headD last, instants.tail)

/-! ### Replaying -/

/-- From related states, the second action does with some of the instants what the first one does
with its state.  It leaves the instants that follow, and the states are still related. -/
def Replays (given : Instant → Prop) (R : σ → τ → Prop) (x : Answering σ α)
    (y : Answering (List Instant × τ) α) : Prop :=
  ∀ s t, R s t → ∃ instants t', (∀ now ∈ instants, given now) ∧ R (x.runFrom s).2 t' ∧
    ∀ rest, y.runFrom (instants ++ rest, t) = ((x.runFrom s).1, rest, t')

namespace Replays

variable {given : Instant → Prop} {R : σ → τ → Prop}

theorem pure (a : α) : Replays given R (pure a) (pure a) :=
  fun _ t h => ⟨[], t, by simp, h, fun _ => rfl⟩

theorem bind {x : Answering σ α} {y : Answering (List Instant × τ) α} {f : α → Answering σ β}
    {g : α → Answering (List Instant × τ) β} (hx : Replays given R x y)
    (hf : ∀ a, Replays given R (f a) (g a)) : Replays given R (x >>= f) (y >>= g) := by
  intro s t h
  obtain ⟨instants, t', hgiven, hR, hy⟩ := hx s t h
  rw [runFrom_bind]
  revert hR hy
  rcases x.runFrom s with ⟨err | a, s'⟩ <;> intro hR hy
  · refine ⟨instants, t', hgiven, hR, fun rest => ?_⟩
    rw [runFrom_bind, hy]
  · obtain ⟨instants', t'', hgiven', hR', hg⟩ := hf a s' t' hR
    refine ⟨instants ++ instants', t'', ?_, hR', fun rest => ?_⟩
    · simpa only [List.mem_append, or_imp, forall_and] using ⟨hgiven, hgiven'⟩
    · rw [List.append_assoc, runFrom_bind, hy]
      exact hg rest

theorem evaluate {ask : Comparison → Answering σ Bool}
    {ask' : Comparison → Answering (List Instant × τ) Bool}
    (hask : ∀ c, Replays given R (ask c) (ask' c)) (e : Expr) :
    Replays given R (e.evaluate ask) (e.evaluate ask') := by
  induction e with
  | leaf c => exact hask c
  | not e ih => exact ih.bind fun b => .pure !b
  | and l r ihl ihr =>
    refine ihl.bind fun b => ?_
    cases b with
    | false => exact .pure false
    | true => exact ihr
  | or l r ihl ihr =>
    refine ihl.bind fun b => ?_
    cases b with
    | false => exact ihr
    | true => exact .pure true

end Replays

/-! ### Entities -/

/-- The instants that a clock gives in any state. -/
def Gives (clock : StateM σ Instant) (now : Instant) : Prop := ∃ s, (clock.run s).1 = now

section Entities

variable {view : View S D} {inspectM : String → Inspecting σ D}
  {inspect : String → Inspecting Unit D} {clock : StateM σ Instant}

namespace Entity

/-- A value is compared at an instant that the clock gives, also if that is not looked at. -/
theorem exists_now_compare (clock : StateM σ Instant) (c : Comparison) (live : Live)
    (x : Entity S D) (s : σ) :
    ∃ now s', Gives clock now ∧ (withInspector (askM.compare clock c live)).runFrom (x, s) =
      (live.compare now c.op c.pattern, x, s') := by
  obtain ⟨answer, hall, hrun⟩ | hrun := live.run_compareM clock c.op c.pattern
  · refine ⟨(clock.run s).1, s, ⟨s, rfl⟩, ?_⟩
    rw [askM.compare, hrun, hall]
    rfl
  · refine ⟨(clock.run s).1, (clock.run s).2, ⟨s, rfl⟩, ?_⟩
    rw [askM.compare, hrun]
    rfl

theorem exists_now_askM
    (hinspect : ∀ id s u, ((inspectM id).run.run s).1 = ((inspect id).run.run u).1)
    (clock : StateM σ Instant) (c : Comparison) (x : Entity S D) (s : σ) (u : Unit) :
    ∃ now s', Gives clock now ∧ (withInspector (askM view inspectM clock c)).runFrom (x, s) =
      (((ask view inspect now c).runFrom (x, u)).1, ((ask view inspect now c).runFrom (x, u)).2.1,
        s') := by
  cases hreading : view.reading? c.field with
  | none =>
    refine ⟨(clock.run s).1, s, ⟨s, rfl⟩, ?_⟩
    rw [ask, askM, askM, hreading]
    rfl
  | some reading =>
    cases reading with
    | summary live =>
      obtain ⟨now, s', hgives, hcompare⟩ := exists_now_compare clock c (live x.summary) x s
      refine ⟨now, s', hgives, ?_⟩
      have hin : view.inDetails c.field = false := by simp [View.inDetails, hreading]
      rw [runFrom_ask_of_not_inDetails hin x u (x.record view inspect u), View.answer, askM,
        hreading]
      exact hcompare
    | details live =>
      have hin : view.inDetails c.field = true := View.inDetails_iff.2 ⟨live, hreading⟩
      have hsame := hinspect (view.id x.summary) s u
      simp only [runFrom_ask_of_inDetails hin, runFrom_detailsM, View.answer, hreading]
      rw [askM, hreading]
      dsimp only
      rw [withInspector_bind, runFrom_bind, runFrom_detailsM]
      cases hdetails : x.details? with
      | some d => exact exists_now_compare clock c (live d) x s
      | none =>
        revert hsame
        rcases (inspectM (view.id x.summary)).run.run s with ⟨err | d, s₁⟩ <;>
          rcases (inspect (view.id x.summary)).run.run u with ⟨_ | _, u₁⟩ <;> rintro ⟨⟩
        · exact ⟨(clock.run s).1, s₁, ⟨s, rfl⟩, rfl⟩
        · exact exists_now_compare clock c (live d) { x with details? := some d } s₁

theorem replays_askM
    (hinspect : ∀ id s u, ((inspectM id).run.run s).1 = ((inspect id).run.run u).1)
    (last : Instant) (c : Comparison) :
    Replays (Gives clock) (fun s t => s.1 = t.1) (withInspector (askM view inspectM clock c))
      (askAt view inspect (Clock.listed last) c) := by
  rintro ⟨x, s⟩ ⟨_, u⟩ ⟨rfl⟩
  obtain ⟨now, s', hgives, hask⟩ := exists_now_askM hinspect clock c x s u
  refine ⟨[now], ((ask view inspect now c).runFrom (x, u)).2, by simpa using hgives, ?_,
    fun rest => ?_⟩
  · rw [hask]
  · rw [hask]
    rfl

end Entity

namespace View

theorem replays_matchListedM
    (hinspect : ∀ id s u, ((inspectM id).run.run s).1 = ((inspect id).run.run u).1)
    (last : Instant) (e : Expr) (summary : S) :
    Replays (Gives clock) (fun _ _ => True) (view.matchListedM inspectM clock e summary)
      (view.matchListedAt inspect (Clock.listed last) e summary) := by
  intro s u _
  have hholds : Replays (Gives clock) _
      (e.evaluate fun c => Entity.withInspector (Entity.askM view inspectM clock c))
      (Entity.holdsAt view inspect (Clock.listed last) e) :=
    .evaluate (Entity.replays_askM hinspect last) e
  rw [← Expr.map_evaluate Entity.withInspector (fun _ => rfl) fun _ _ => Entity.withInspector_bind]
    at hholds
  obtain ⟨instants, t', hgives, -, hrun⟩ := hholds ({ summary }, s) ({ summary }, u) rfl
  exact ⟨instants, t'.2, hgives, trivial, fun rest => congrArg
    (fun run : Except QueryError Bool × List Instant × Entity S D × Unit =>
      (run.1, run.2.1, run.2.2.2)) (hrun rest)⟩

theorem replays_scanM
    (hinspect : ∀ id s u, ((inspectM id).run.run s).1 = ((inspect id).run.run u).1)
    (last : Instant) (e : Expr) (summaries : List S) :
    Replays (Gives clock) (fun _ _ => True) (view.scanM inspectM clock e summaries)
      (view.scanAt inspect (Clock.listed last) e summaries) := by
  induction summaries with
  | nil => exact .pure []
  | cons summary rest ih =>
    exact (replays_matchListedM hinspect last e summary).bind fun _ => ih.bind fun _ => .pure _

end View

end Entities

/-! ### Snapshots -/

namespace Snapshot

variable (snapshot : Snapshot) (announce : EntityKind → String → StateM σ Unit)

theorem inspectContainer_announcing (id : String) (s : σ) (u : Unit) :
    (((snapshot.inspectorM.announcing announce).inspectContainer id).run.run s).1 =
      ((snapshot.inspector.inspectContainer id).run.run u).1 := by
  simp only [inspector, inspectorM, InspectorM.announcing]
  cases snapshot.container? id <;> rfl

theorem inspectImage_announcing (id : String) (s : σ) (u : Unit) :
    (((snapshot.inspectorM.announcing announce).inspectImage id).run.run s).1 =
      ((snapshot.inspector.inspectImage id).run.run u).1 := by
  simp only [inspector, inspectorM, InspectorM.announcing]
  cases snapshot.image? id <;> rfl

/-- **A scan on any system is one with a list of instants.**  Each of them is given by the clock of
the system in one of its states. -/
theorem replays_scanM (clock : StateM σ Instant) (last : Instant) (kind : EntityKind) (e : Expr) :
    Replays (Gives clock) (fun _ (_ : Unit) => True)
      (scanM (snapshot.inspectorM.announcing announce) kind clock e)
      (scanAt snapshot.inspector kind (Clock.listed last) e) := by
  -- the listing needs no instant
  cases kind with
  | container =>
    refine Replays.bind (fun s u _ => ⟨[], u, by simp, trivial, fun rest => rfl⟩) fun listed => ?_
    exact View.replays_scanM (inspectContainer_announcing snapshot announce) last e listed
  | image =>
    refine Replays.bind (fun s u _ => ⟨[], u, by simp, trivial, fun rest => rfl⟩) fun listed => ?_
    exact View.replays_scanM (inspectImage_announcing snapshot announce) last e listed

end Snapshot

end FleetQuery
