import FleetQuery.Proofs.Entity.Kind
import Mathlib.Data.List.Forall2

/-!
# Connectives and scans

Scans for `!e`, `e & f` and `e | f` are runs of their own, with short circuits and inspections of
their own.  Of a snapshot and at one instant they give the complement, the intersection and the
union of what the scans for `e` and `f` give:

* `picked` : the entries of a list at the positions that are marked;
* `Snapshot.Returns` : a scan returns the entries at the marked positions, and the marks are what
  the listed entities answer, each by itself;
* `Snapshot.returns_connectives` : **the marks for `!e`, `e & f` and `e | f` are those for `e` and
  `f`, negated and joined position by position**; and `!e` fails if and only if `e` does, in the
  same way.

Entries are told apart by their positions, since an id may be listed more than once.  All scans are
made at one instant: ages, and so the answers to `e`, change from one instant to the next.
-/

namespace FleetQuery

open Answering

/-- The entries at the positions that are marked, in order. -/
def picked {α : Type} (marks : List Bool) (entries : List α) : List α :=
  ((entries.zip marks).filter Prod.snd).map Prod.fst

theorem picked_cons {α : Type} (mark : Bool) (marks : List Bool) (entry : α) (entries : List α) :
    picked (mark :: marks) (entry :: entries) =
      if mark then entry :: picked marks entries else picked marks entries := by
  cases mark <;> rfl

variable {S D : Type}

/-! ### Verdicts -/

namespace Expr

variable {answer : Comparison → Except QueryError Bool} {e f : Expr} {b c : Bool}

theorem verdict_not (h : e.verdict answer = .ok b) : (not e).verdict answer = .ok !b := by
  rw [verdict, h]
  rfl

theorem verdict_and (he : e.verdict answer = .ok b) (hf : f.verdict answer = .ok c) :
    (and e f).verdict answer = .ok (b && c) := by
  rw [verdict, he, hf]
  cases b <;> rfl

theorem verdict_or (he : e.verdict answer = .ok b) (hf : f.verdict answer = .ok c) :
    (or e f).verdict answer = .ok (b || c) := by
  rw [verdict, he, hf]
  cases b <;> rfl

theorem verdict_not_eq_error_iff {err : QueryError} :
    (not e).verdict answer = .error err ↔ e.verdict answer = .error err := by
  rw [verdict]
  cases e.verdict answer with
  | error err' => rfl
  | ok b => simp [except_ok_bind, pure, Except.pure]

end Expr

/-! ### Marks on a listing -/

namespace View

variable {view : View S D} {now : Instant} {record : String → Except SourceError D} {e f : Expr}
  {summaries : List S} {p q : List Bool} {ids : List String}

/-- The marks are the verdicts on the listed entities, position by position. -/
def Marks (view : View S D) (now : Instant) (record : String → Except SourceError D) (e : Expr)
    (summaries : List S) (p : List Bool) : Prop :=
  List.Forall₂ (fun summary mark =>
    e.verdict (view.answer now summary (record (view.id summary))) = .ok mark) summaries p

theorem Marks.select_eq (h : view.Marks now record e summaries p) :
    view.select now record e summaries = .ok (picked p (summaries.map view.id)) := by
  induction h with
  | nil => rfl
  | @cons summary b rest p hb _ ih =>
    rw [select_cons, hb, ih, List.map_cons, picked_cons]
    cases b <;> rfl

theorem exists_marks (h : view.select now record e summaries = .ok ids) :
    ∃ p, view.Marks now record e summaries p := by
  induction summaries generalizing ids with
  | nil => exact ⟨[], .nil⟩
  | cons summary rest ih =>
    rw [select_cons] at h
    obtain ⟨b, hb, h⟩ := except_bind_eq_ok.1 h
    obtain ⟨_, hrest, -⟩ := except_bind_eq_ok.1 h
    obtain ⟨p, hp⟩ := ih hrest
    exact ⟨b :: p, .cons hb hp⟩

theorem Marks.not (h : view.Marks now record e summaries p) :
    view.Marks now record (.not e) summaries (p.map (!·)) :=
  List.forall₂_map_right_iff.2 (h.imp fun _ _ => Expr.verdict_not)

theorem Marks.zipWith {g : Expr} {op : Bool → Bool → Bool}
    (hop : ∀ {answer b c}, e.verdict answer = .ok b → f.verdict answer = .ok c →
      g.verdict answer = .ok (op b c))
    (hp : view.Marks now record e summaries p) (hq : view.Marks now record f summaries q) :
    view.Marks now record g summaries (List.zipWith op p q) := by
  induction hp generalizing q with
  | nil =>
    cases hq
    exact .nil
  | cons hb _ ih =>
    cases hq with
    | cons hc hq => exact .cons (hop hb hc) (ih hq)

theorem select_not_eq_error_iff {err : QueryError} :
    view.select now record (.not e) summaries = .error err ↔
      view.select now record e summaries = .error err := by
  induction summaries with
  | nil => exact Iff.rfl
  | cons summary rest ih =>
    rw [select_cons, select_cons]
    cases hb : e.verdict (view.answer now summary (record (view.id summary))) with
    | error err' =>
      rw [Expr.verdict_not_eq_error_iff.2 hb]
      exact Iff.rfl
    | ok b =>
      rw [Expr.verdict_not hb, except_ok_bind, except_ok_bind]
      simp only [except_bind_eq_error, ih]
      simp [pure, Except.pure]

end View

/-! ### Snapshots -/

namespace Snapshot

/-- A scan returns the listed entities at the marked positions, in order, and these are the ones
that answer that the expression holds. -/
structure Returns (s : Snapshot) (kind : EntityKind) (now : Instant) (e : Expr) (p : List Bool) :
    Prop where
  /-- The marks are what the listed entities answer, each by itself. -/
  answers : List.Forall₂ (fun summary mark =>
    ((kind.view.matchListed (s.inspector.inspect kind) now e summary).runFrom ()).1 = .ok mark)
    (s.listed kind) p
  /-- The ids at the marked positions are returned. -/
  scan_eq : s.scan kind now e = .ok (picked p ((s.listed kind).map kind.view.id))

variable {s : Snapshot} {kind : EntityKind} {now : Instant} {e f : Expr} {p : List Bool}

/-- If the marks are the verdicts, a scan returns what they mark. -/
theorem returns_of_marks (h : kind.view.Marks now (s.record kind) e (s.listed kind) p) :
    s.Returns kind now e p where
  answers := by
    simpa only [View.matchListed_answer (s.inspect_eq kind), View.Marks] using h
  scan_eq := by rw [scan_eq_selectListed, h.select_eq]

theorem scan_not_eq_error_iff {err : QueryError} :
    s.scan kind now (.not e) = .error err ↔ s.scan kind now e = .error err := by
  rw [scan_eq_selectListed, scan_eq_selectListed]
  exact View.select_not_eq_error_iff

/-- **Scans commute with the connectives.**  If the scans for `e` and for `f` succeed, so do those
for `!e`, `e & f` and `e | f`; the first returns the listed entities that the scan for `e` does not
return, the second those that both return and the third those that at least one returns, told apart
by their positions and in order.  The scan for `!e` succeeds if and only if that for `e` does, and
fails with the same error. -/
theorem returns_connectives (s : Snapshot) (kind : EntityKind) (now : Instant) (e f : Expr) :
    (∀ ids ids', s.scan kind now e = .ok ids → s.scan kind now f = .ok ids' →
      ∃ p q, s.Returns kind now e p ∧ s.Returns kind now f q ∧
        s.Returns kind now (.not e) (p.map (!·)) ∧
        s.Returns kind now (.and e f) (List.zipWith (· && ·) p q) ∧
        s.Returns kind now (.or e f) (List.zipWith (· || ·) p q)) ∧
    ((∃ ids, s.scan kind now (.not e) = .ok ids) ↔ ∃ ids, s.scan kind now e = .ok ids) ∧
    ∀ err, s.scan kind now (.not e) = .error err ↔ s.scan kind now e = .error err := by
  refine ⟨fun ids ids' he hf => ?_, ?_, fun err => scan_not_eq_error_iff⟩
  · rw [scan_eq_selectListed] at he hf
    obtain ⟨p, hp⟩ := View.exists_marks he
    obtain ⟨q, hq⟩ := View.exists_marks hf
    exact ⟨p, q, returns_of_marks hp, returns_of_marks hq, returns_of_marks hp.not,
      returns_of_marks (hp.zipWith Expr.verdict_and hq),
      returns_of_marks (hp.zipWith Expr.verdict_or hq)⟩
  · have hfails : ∀ err, s.scan kind now (.not e) = .error err ↔ s.scan kind now e = .error err :=
      fun _ => scan_not_eq_error_iff
    revert hfails
    cases s.scan kind now (.not e) <;> cases s.scan kind now e <;> simp

/-- A container is listed twice, and its entries are told apart. -/
theorem returns_connectives_duplicates :
    let s : Snapshot :=
      { containers := [{ id := "a", image := "nginx" }, { id := "b", image := "nginx" },
          { id := "a", image := "redis" }],
        containerDetails := [{ id := "a", state := { running := true } }, { id := "b" }] }
    let now : Instant := ⟨⟨2024, 1, 15, by decide⟩, 50400, 0, by decide⟩
    let e : Expr := .leaf ⟨.named "image", .eq, "nginx"⟩
    let f : Expr := .leaf ⟨.named "running", .is, ""⟩
    s.scan .container now e = .ok ["a", "b"] ∧ s.scan .container now f = .ok ["a", "a"] ∧
      s.scan .container now (.and e f) = .ok ["a"] ∧
      ∃ p q, s.Returns .container now e p ∧ s.Returns .container now f q ∧
        s.Returns .container now (.not e) (p.map (!·)) ∧
        s.Returns .container now (.and e f) (List.zipWith (· && ·) p q) ∧
        s.Returns .container now (.or e f) (List.zipWith (· || ·) p q) := by
  intro s now e f
  have he : s.scan .container now e = .ok ["a", "b"] := by
    subst s now e
    rfl
  have hf : s.scan .container now f = .ok ["a", "a"] := by
    subst s now f
    rfl
  refine ⟨he, hf, ?_, (returns_connectives s .container now e f).1 _ _ he hf⟩
  subst s now e f
  rfl

end Snapshot

end FleetQuery
