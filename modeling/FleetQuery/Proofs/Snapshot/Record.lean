import FleetQuery.Proofs.Entity.Matching
import Mathlib.Data.List.Induction
import Mathlib.Logic.Function.Basic

/-!
# What a snapshot answers

A snapshot may hold several records of details with one id.  The last of them is the one that
counts:

* `IsLast p as a` : `a` is the last element of `as` with `p`;
* `Snapshot.index` : the records entered into an index one by one, each over what was there;
* `Snapshot.Answers` : a snapshot lists what it holds, and inspecting an id gives the last record
  with that id, or the failure that names the kind and the id;
* `Snapshot.answers_last` : **every snapshot answers like this**, and so scans of a kind cannot tell
  snapshots apart that list the same entities of this kind and have the same last records.  Earlier
  records, the order of records with different ids, and all that is held of the other kind do not
  matter.
-/

namespace FleetQuery

/-! ### Last elements -/

section Last

variable {α : Type} {p : α → Prop} [DecidablePred p] {as : List α} {a : α}

/-- `a` is the last element of `as` with `p`. -/
def IsLast (p : α → Prop) (as : List α) (a : α) : Prop :=
  ∃ before after, as = before ++ a :: after ∧ p a ∧ ∀ x ∈ after, ¬p x

theorem findLast?_eq_some_iff : Snapshot.findLast? (p ·) as = some a ↔ IsLast p as a := by
  rw [Snapshot.findLast?, List.find?_eq_some_iff_append]
  constructor
  · rintro ⟨hp, after, before, has, hafter⟩
    refine ⟨before.reverse, after.reverse, ?_, of_decide_eq_true hp, ?_⟩
    · rw [← List.reverse_reverse as, has, List.reverse_append, List.reverse_cons,
        List.append_assoc, List.singleton_append]
    · simpa using hafter
  · rintro ⟨before, after, rfl, hp, hafter⟩
    refine ⟨decide_eq_true hp, after.reverse, before.reverse, by simp, ?_⟩
    simpa using hafter

theorem findLast?_eq_none_iff : Snapshot.findLast? (p ·) as = none ↔ ∀ x ∈ as, ¬p x := by
  simp [Snapshot.findLast?]

end Last

namespace EntityKind

/-- The id that details are recorded under. -/
def recordId : (kind : EntityKind) → kind.Details → String
  | container => ContainerDetails.id
  | image => ImageDetails.id

end EntityKind

namespace Snapshot

variable {ι : Type} {s s' : Snapshot} {kind : EntityKind} {id : String} {d : kind.Details}

/-- The records of details of a kind. -/
def details (s : Snapshot) : (kind : EntityKind) → List kind.Details
  | .container => s.containerDetails
  | .image => s.imageDetails

/-! ### The index of the records -/

/-- Enter records into an index by id, each over what stands there. -/
def entered {D : Type} (recordId : D → String) (ds : List D) : String → Option D :=
  ds.foldl (fun index d => Function.update index (recordId d) (some d)) fun _ => none

/-- The index of the records of a kind. -/
def index (s : Snapshot) (kind : EntityKind) : String → Option kind.Details :=
  entered kind.recordId (s.details kind)

/-- An index that is filled from front to back holds the last records. -/
theorem entered_eq_findLast? {D : Type} (recordId : D → String) (ds : List D) (id : String) :
    entered recordId ds id = findLast? (recordId · = id) ds := by
  induction ds using List.reverseRecOn with
  | nil => rfl
  | append_singleton ds d ih =>
    rw [entered, List.foldl_append, List.foldl_cons, List.foldl_nil, ← entered, findLast?,
      List.reverse_concat, List.find?_cons, ← findLast?, ← ih]
    by_cases hid : recordId d = id
    · simp [hid]
    · rw [Function.update_of_ne (Ne.symm hid), decide_eq_false hid]

theorem index_eq_some_iff : s.index kind id = some d ↔
    IsLast (kind.recordId · = id) (s.details kind) d := by
  rw [index, entered_eq_findLast?, findLast?_eq_some_iff]

theorem index_eq_none_iff :
    s.index kind id = none ↔ ∀ d ∈ s.details kind, kind.recordId d ≠ id := by
  rw [index, entered_eq_findLast?, findLast?_eq_none_iff]

theorem container?_eq (s : Snapshot) (id : String) : s.container? id = s.index .container id :=
  (entered_eq_findLast? ContainerDetails.id s.containerDetails id).symm

theorem image?_eq (s : Snapshot) (id : String) : s.image? id = s.index .image id :=
  (entered_eq_findLast? ImageDetails.id s.imageDetails id).symm

/-! ### Listing and inspecting -/

theorem inspector_list (s : Snapshot) (kind : EntityKind) :
    (s.inspector : Inspector ι).list kind = pure (s.listed kind) := by
  cases kind <;> rfl

theorem inspector_inspect (s : Snapshot) (kind : EntityKind) (id : String) :
    (s.inspector : Inspector ι).inspect kind id =
      match s.index kind id with
      | some d => pure d
      | none => throw (.notFound kind id) := by
  cases kind with
  | container =>
    rw [← container?_eq]
    simp only [Inspector.inspect, inspector, inspectorM]
    cases s.container? id <;> rfl
  | image =>
    rw [← image?_eq]
    simp only [Inspector.inspect, inspector, inspectorM]
    cases s.image? id <;> rfl

theorem run_inspect (s : Snapshot) (kind : EntityKind) (id : String) (i : ι) :
    ((s.inspector : Inspector ι).inspect kind id).run.run i =
      (match s.index kind id with
        | some d => .ok d
        | none => .error (.notFound kind id), i) := by
  rw [inspector_inspect]
  cases s.index kind id <;> rfl

/-- What a snapshot answers about the entities of a kind.  It keeps no state: `i` is that of
whoever else listens. -/
structure Answers (s : Snapshot) (kind : EntityKind) (ι : Type) : Prop where
  /-- The listing is what the snapshot lists. -/
  list : ∀ i : ι, (s.inspector.list kind).run.run i = (.ok (s.listed kind), i)
  /-- An inspection gives the last record with the id. -/
  found : ∀ id d (i : ι), (s.inspector.inspect kind id).run.run i = (.ok d, i) ↔
    IsLast (kind.recordId · = id) (s.details kind) d
  /-- Where there is no record with the id, an inspection fails for that, and nothing else makes it
  fail. -/
  missing : ∀ id err (i : ι), (s.inspector.inspect kind id).run.run i = (.error err, i) ↔
    err = .notFound kind id ∧ ∀ d ∈ s.details kind, kind.recordId d ≠ id
  /-- An inspection looks the id up in the index of the records, and changes nothing. -/
  indexed : ∀ id (i : ι), (s.inspector.inspect kind id).run.run i =
    (match s.index kind id with
      | some d => .ok d
      | none => .error (.notFound kind id), i)

theorem answers (s : Snapshot) (kind : EntityKind) (ι : Type) : s.Answers kind ι where
  list i := by
    rw [inspector_list]
    rfl
  found id d i := by
    rw [run_inspect, ← index_eq_some_iff, Prod.mk.injEq, and_iff_left rfl]
    cases s.index kind id <;> simp
  missing id err i := by
    rw [run_inspect, ← index_eq_none_iff, Prod.mk.injEq, and_iff_left rfl]
    cases s.index kind id <;> simp [eq_comm]
  indexed := s.run_inspect kind

/-! ### Two snapshots -/

/-- Scans of a kind do not tell the snapshots apart, whatever the filter and the clock. -/
structure Alike (s s' : Snapshot) (kind : EntityKind) : Prop where
  /-- The ids that match, or the failure, are the same if the clock is read for every
  comparison. -/
  scanAt_eq : ∀ {κ ι : Type} (clock : Clock κ) (e : Expr) (k : κ) (i : ι),
    (scanAt s.inspector kind clock e).runFrom (k, i) =
      (scanAt s'.inspector kind clock e).runFrom (k, i)
  /-- They are the same at one instant. -/
  scan_eq : ∀ now e, s.scan kind now e = s'.scan kind now e
  /-- The same ids are inspected. -/
  inspected_eq : ∀ now e, s.inspected kind now e = s'.inspected kind now e

/-- A scan needs nothing of an inspector but its listing and its inspections of one kind. -/
theorem alike_of_index_eq (hlisted : s.listed kind = s'.listed kind)
    (hindex : s.index kind = s'.index kind) : s.Alike s' kind := by
  have hlist : ∀ ι : Type,
      (s.inspector : Inspector ι).list kind = (s'.inspector : Inspector ι).list kind := by
    intro ι
    rw [inspector_list, inspector_list, hlisted]
  have hinspect : ∀ ι : Type,
      (s.inspector : Inspector ι).inspect kind = (s'.inspector : Inspector ι).inspect kind := by
    intro ι
    funext id
    rw [inspector_inspect, inspector_inspect, hindex]
  refine ⟨?_, ?_, ?_⟩
  · intro κ ι clock e k i
    rw [scanAt, scanAt, hlist, hinspect]
  · intro now e
    rw [scan, scan, FleetQuery.scan_eq, FleetQuery.scan_eq, hlist, hinspect]
  · intro now e
    rw [inspected, inspected, FleetQuery.scan_eq, FleetQuery.scan_eq, Inspector.watched_list,
      Inspector.watched_list, Inspector.watched_inspect, Inspector.watched_inspect, hlist, hinspect]

/-- **The last record counts.**  A snapshot lists what it holds, in order and with repetitions, and
inspecting an id gives the last record with this id; if there is none, it fails for that.  So scans
of a kind do not tell snapshots apart that list the same entities of this kind and have the same
last records. -/
theorem answers_last (s : Snapshot) (kind : EntityKind) :
    (∀ ι, s.Answers kind ι) ∧
      ∀ s' : Snapshot, s.listed kind = s'.listed kind →
        (∀ id d, IsLast (kind.recordId · = id) (s.details kind) d ↔
          IsLast (kind.recordId · = id) (s'.details kind) d) →
        s.Alike s' kind := by
  refine ⟨s.answers kind, fun s' hlisted hlast => alike_of_index_eq hlisted ?_⟩
  funext id
  refine Option.ext fun d => ?_
  rw [index_eq_some_iff, index_eq_some_iff]
  exact hlast id d

/-- The records stand in another order, there is an old one of the other container, and there are
images. -/
theorem answers_last_reordered :
    let containers : List ContainerSummary := [{ id := "a" }, { id := "b" }, { id := "a" }]
    let s : Snapshot :=
      { containers,
        containerDetails := [{ id := "a", name := "/old" }, { id := "b" },
          { id := "a", name := "/new" }] }
    let s' : Snapshot :=
      { containers,
        containerDetails := [{ id := "b", name := "/stale" }, { id := "a", name := "/new" },
          { id := "b" }],
        images := [{ id := "c" }] }
    s.listed .container = s'.listed .container ∧
      (∀ id d, IsLast (EntityKind.container.recordId · = id) (s.details .container) d ↔
        IsLast (EntityKind.container.recordId · = id) (s'.details .container) d) ∧
      s.Alike s' .container := by
  intro containers s s'
  have hfound : ∀ id, s.container? id = s'.container? id := by
    intro id
    by_cases ha : id = "a"
    · simp [container?, findLast?, s, s', ha]
    · by_cases hb : id = "b"
      · simp [container?, findLast?, s, s', hb]
      · simp [container?, findLast?, s, s', Ne.symm ha, Ne.symm hb]
  have hlast : ∀ id d, IsLast (EntityKind.container.recordId · = id) (s.details .container) d ↔
      IsLast (EntityKind.container.recordId · = id) (s'.details .container) d := by
    intro id d
    rw [← index_eq_some_iff, ← index_eq_some_iff, ← container?_eq, ← container?_eq, hfound]
  exact ⟨rfl, hlast, (answers_last s .container).2 s' rfl hlast⟩

end Snapshot

end FleetQuery
