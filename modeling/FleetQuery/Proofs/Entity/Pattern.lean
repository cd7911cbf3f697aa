import FleetQuery.Entity.Scan
import FleetQuery.Proofs.Entity.Fields

/-!
# Patterns that are at fault

A pattern that is no number, or no literal, is a mistake in the filter and has nothing to do with
the entities, so one would have it found whatever the entity:

* `Entity.RejectsPattern` : a comparison fails for its pattern;
* `Reading.Steady` : all entities have the same against a pattern;
* `Image.steady_of_reading?`, `Container.steady_of_reading?` : every field is steady but the exit
  code of containers;
* `Entity.rejectsPattern_agrees` : **two entities whose details can be fetched reject the same
  patterns**, except for patterns of exit codes that are no integers, when just one of the two
  containers never ran.

The exit code is the one field whose reading looks at the value first: where it is -1 it is not
compared at all, so the pattern is not read (`Entity.not_rejectsPattern_neverRan`).
-/

namespace FleetQuery

open Answering

variable {S D ι ι' κ κ' : Type}

/-! ### What an entity has against a pattern -/

namespace View

/-- What an entity has against the pattern of a comparison. -/
def patternFault? (view : View S D) (summary : S) (d : D) (c : Comparison) : Option QueryError :=
  match view.reading? c.field with
  | none => none
  | some (.summary live) => (live summary).patternFault? c.pattern
  | some (.details live) => (live d).patternFault? c.pattern

theorem patternFault?_eq_some_iff (view : View S D) (now : Instant) (summary : S) (d : D)
    (c : Comparison) (err : QueryError) :
    view.patternFault? summary d c = some err ↔
      view.answer now summary (.ok d) c = .error err ∧ err.isPatternError = true := by
  rw [patternFault?, answer]
  cases view.reading? c.field with
  | none =>
    -- no pattern is at fault where there is no field
    constructor
    · rintro ⟨⟩
    · rintro ⟨⟨rfl⟩, ⟨⟩⟩
  | some reading =>
    cases reading with
    | summary live => exact Live.patternFault?_eq_some_iff _ now c.op
    | details live => exact Live.patternFault?_eq_some_iff _ now c.op

end View

namespace Entity

/-- A comparison fails for its pattern. -/
def RejectsPattern (view : View S D) (inspect : String → Inspecting ι D) (clock : Clock κ)
    (c : Comparison) (s : κ × Entity S D × ι) (err : QueryError) : Prop :=
  ((askAt view inspect clock c).runFrom s).1 = .error err ∧ err.isPatternError = true

theorem rejectsPattern_iff {view : View S D} {inspect : String → Inspecting ι D} {x : Entity S D}
    {i : ι} {d : D} (hd : x.record view inspect i = .ok d) (clock : Clock κ) (k : κ)
    (c : Comparison) (err : QueryError) :
    RejectsPattern view inspect clock c (k, x, i) err ↔
      view.patternFault? x.summary d c = some err := by
  rw [RejectsPattern, runFrom_askAt, (asked_ask ..).answer_eq, hd, View.patternFault?_eq_some_iff]

end Entity

/-! ### Steady fields -/

/-- All entities have the same against a pattern. -/
def Reading.Steady : Reading S D → Prop
  | .summary live => ∀ s s', (live s).patternFault? = (live s').patternFault?
  | .details live => ∀ d d', (live d).patternFault? = (live d').patternFault?

theorem View.patternFault?_eq_of_steady {view : View S D} {c : Comparison}
    (h : ∀ reading, view.reading? c.field = some reading → reading.Steady) (s s' : S) (d d' : D) :
    view.patternFault? s d c = view.patternFault? s' d' c := by
  rw [View.patternFault?, View.patternFault?]
  cases hreading : view.reading? c.field with
  | none => rfl
  | some reading =>
    cases reading with
    | summary live => exact congrFun (h _ hreading s s') c.pattern
    | details live => exact congrFun (h _ hreading d d') c.pattern

theorem Image.steady_of_reading? {field : Field} {reading : Reading ImageSummary ImageDetails}
    (h : Image.view.reading? field = some reading) : reading.Steady := by
  cases field with
  | named name =>
    simp only [view, reading?, named?] at h
    split at h <;> cases h <;> exact fun _ _ => rfl
  | member family key =>
    simp only [view, reading?] at h
    split at h <;> cases h
    exact fun _ _ => rfl

theorem Container.steady_of_reading? {field : Field} (hfield : field ≠ .named "exit")
    {reading : Reading ContainerSummary ContainerDetails}
    (h : Container.view.reading? field = some reading) : reading.Steady := by
  cases field with
  | named name =>
    simp only [view, reading?, named?] at h
    split at h <;> cases h
    -- the live value of an exit code is not always of the same sort
    case h_7 => exact absurd rfl hfield
    all_goals exact fun _ _ => rfl
  | member family key =>
    simp only [view, reading?] at h
    split at h <;> cases h
    exact fun _ _ => rfl

/-- A pattern of the exit code is read only if the container ran. -/
theorem Container.patternFault?_exit (s : ContainerSummary) (d : ContainerDetails) (op : Operator)
    (pattern : String) :
    Container.view.patternFault? s d ⟨.named "exit", op, pattern⟩ =
      if d.state.exitCode = -1 then none
      else if readInteger? (trim pattern.toList) = none then
        some (.comparison (.notNumeric pattern))
      else none := by
  change (exitCode d.state.exitCode).patternFault? pattern = _
  rw [exitCode]
  by_cases hcode : d.state.exitCode = -1
  · simp [hcode, Live.patternFault?]
  · simp only [hcode, beq_iff_eq, if_false, Live.patternFault?]
    cases readInteger? (trim pattern.toList) <;> simp

theorem Container.patternFault?_eq_iff (c : Comparison) (s s' : ContainerSummary)
    (d d' : ContainerDetails) :
    Container.view.patternFault? s d c = Container.view.patternFault? s' d' c ↔
      (c.field = .named "exit" → readInteger? (trim c.pattern.toList) = none →
        (d.state.exitCode = -1 ↔ d'.state.exitCode = -1)) := by
  by_cases hfield : c.field = .named "exit"
  · obtain ⟨field, op, pattern⟩ := c
    obtain rfl : field = .named "exit" := hfield
    rw [patternFault?_exit, patternFault?_exit]
    by_cases hinteger : readInteger? (trim pattern.toList) = none
    · by_cases hd : d.state.exitCode = -1 <;> by_cases hd' : d'.state.exitCode = -1 <;>
        simp [hinteger, hd, hd']
    · simp [hinteger]
  · have hsteady := View.patternFault?_eq_of_steady (c := c)
      (fun _ hreading => steady_of_reading? hfield hreading) s s' d d'
    exact ⟨fun _ h => absurd h hfield, fun _ => hsteady⟩

/-! ### Two entities -/

namespace Entity

/-- Entities reject the same patterns if they have the same against them. -/
theorem forall_rejectsPattern_iff {view : View S D} {inspect : String → Inspecting ι D}
    {inspect' : String → Inspecting ι' D} {x y : Entity S D} {i : ι} {i' : ι'} {d d' : D}
    (hd : x.record view inspect i = .ok d) (hd' : y.record view inspect' i' = .ok d')
    (clock : Clock κ) (clock' : Clock κ') (k : κ) (k' : κ') (c : Comparison) :
    (∀ err, RejectsPattern view inspect clock c (k, x, i) err ↔
        RejectsPattern view inspect' clock' c (k', y, i') err) ↔
      view.patternFault? x.summary d c = view.patternFault? y.summary d' c := by
  simp only [rejectsPattern_iff hd, rejectsPattern_iff hd']
  exact Option.ext_iff.symm

/-- **Patterns at fault are found whatever the entity**, whatever its inspector and whatever the
clock, as long as its details can be fetched: two images fail alike for the pattern of every
comparison.  So do two containers, but for a comparison of the exit code with something that is no
integer: they fail alike if and only if both of them ran or neither did. -/
theorem rejectsPattern_agrees (inspector : Inspector ι) (inspector' : Inspector ι')
    (clock : Clock κ) (clock' : Clock κ') (c : Comparison) (k : κ) (k' : κ') (i : ι) (i' : ι') :
    (∀ (x y : Entity ContainerSummary ContainerDetails) (d d' : ContainerDetails),
      x.record Container.view inspector.inspectContainer i = .ok d →
      y.record Container.view inspector'.inspectContainer i' = .ok d' →
      ((∀ err,
          RejectsPattern Container.view inspector.inspectContainer clock c (k, x, i) err ↔
            RejectsPattern Container.view inspector'.inspectContainer clock' c (k', y, i') err) ↔
        (c.field = .named "exit" → readInteger? (trim c.pattern.toList) = none →
          (d.state.exitCode = -1 ↔ d'.state.exitCode = -1)))) ∧
    (∀ (x y : Entity ImageSummary ImageDetails) (d d' : ImageDetails),
      x.record Image.view inspector.inspectImage i = .ok d →
      y.record Image.view inspector'.inspectImage i' = .ok d' →
      ∀ err,
        RejectsPattern Image.view inspector.inspectImage clock c (k, x, i) err ↔
          RejectsPattern Image.view inspector'.inspectImage clock' c (k', y, i') err) := by
  constructor
  · intro x y d d' hd hd'
    rw [forall_rejectsPattern_iff hd hd', Container.patternFault?_eq_iff]
  · intro x y d d' hd hd'
    rw [forall_rejectsPattern_iff hd hd']
    exact View.patternFault?_eq_of_steady (fun _ => Image.steady_of_reading?) _ _ d d'

/-- Two containers that ran and two images, one of which was never created; one of each was
inspected before. -/
theorem rejectsPattern_agrees_ran :
    let inspector : Inspector Unit := Snapshot.inspector
      { containerDetails := [{ id := "a", state := { exitCode := 137 } }],
        imageDetails := [{ id := "a" }] }
    let clock : Clock Nat := fun n => (⟨⟨2024, 1, 15, by decide⟩, 50400, 0, by decide⟩, n + 1)
    let c : Comparison := ⟨.named "exit", .gt, "1h"⟩
    let c' : Comparison := ⟨.named "created", .gt, "soon"⟩
    let x : Entity ContainerSummary ContainerDetails := { summary := { id := "a" } }
    let y : Entity ContainerSummary ContainerDetails :=
      { summary := { id := "b" }, details? := some { id := "b", state := { exitCode := 0 } } }
    let z : Entity ImageSummary ImageDetails := { summary := { id := "a" } }
    let w : Entity ImageSummary ImageDetails :=
      { summary := { id := "b" }, details? := some { id := "b", created? := some (clock 0).1 } }
    ∃ d d' a b, x.record Container.view inspector.inspectContainer () = .ok d ∧
      y.record Container.view inspector.inspectContainer () = .ok d' ∧
      (∀ err,
        RejectsPattern Container.view inspector.inspectContainer clock c (0, x, ()) err ↔
          RejectsPattern Container.view inspector.inspectContainer clock c (7, y, ()) err) ∧
      RejectsPattern Container.view inspector.inspectContainer clock c (7, y, ())
        (.comparison (.notNumeric "1h")) ∧
      z.record Image.view inspector.inspectImage () = .ok a ∧
      w.record Image.view inspector.inspectImage () = .ok b ∧
      ∀ err,
        RejectsPattern Image.view inspector.inspectImage clock c' (0, z, ()) err ↔
          RejectsPattern Image.view inspector.inspectImage clock c' (7, w, ()) err := by
  intro inspector clock c c' x y z w
  refine ⟨_, _, _, _, rfl, rfl, ?agree, ⟨?rejects, rfl⟩, rfl, rfl, ?images⟩
  case agree =>
    exact ((rejectsPattern_agrees inspector inspector clock clock c 0 7 () ()).1 x y _ _ rfl rfl).2
      fun _ _ => by decide
  case rejects =>
    subst y c
    rfl
  case images =>
    exact (rejectsPattern_agrees inspector inspector clock clock c' 0 7 () ()).2 z w _ _ rfl rfl

/-- Of two containers whose details can be fetched, the one that ran rejects the pattern of an
accepted filter and the one that never ran does not. -/
theorem not_rejectsPattern_neverRan :
    let inspector : Inspector Unit := Snapshot.inspector
      { containerDetails :=
          [{ id := "c1", state := { exitCode := -1 } },
            { id := "c2", state := { exitCode := 0 } }] }
    let clock : Clock Unit := fun u => (⟨⟨2024, 1, 15, by decide⟩, 50400, 0, by decide⟩, u)
    let c : Comparison := ⟨.named "exit", .eq, "x"⟩
    let x : Entity ContainerSummary ContainerDetails := { summary := { id := "c1" } }
    let y : Entity ContainerSummary ContainerDetails := { summary := { id := "c2" } }
    parseFilter Container.schema "exit=x" = .ok (.leaf c) ∧
      (∃ d, x.record Container.view inspector.inspectContainer () = .ok d) ∧
      (∃ d, y.record Container.view inspector.inspectContainer () = .ok d) ∧
      RejectsPattern Container.view inspector.inspectContainer clock c ((), y, ())
        (.comparison (.notNumeric "x")) ∧
      ¬ RejectsPattern Container.view inspector.inspectContainer clock c ((), x, ())
        (.comparison (.notNumeric "x")) := by
  intro inspector clock c x y
  refine ⟨rfl, ⟨_, rfl⟩, ⟨_, rfl⟩, ⟨?_, rfl⟩, ?_⟩
  · subst c
    rfl
  · rintro ⟨⟨⟩, -⟩

end Entity

end FleetQuery
