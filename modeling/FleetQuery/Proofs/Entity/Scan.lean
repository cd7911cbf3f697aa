import FleetQuery.Entity.Scan
import FleetQuery.Proofs.Entity.Answer

/-!
# Scans without a memory

A scan fetches details as it needs them and keeps them with the entity.  None of this shows in
its result: `Snapshot.scan_eq_select` says that a scan of a snapshot gives what one gets by going
through the listing and reading every comparison off the summary and the last details with its
id.
-/

namespace FleetQuery

open Answering

/-! ### Selections -/

/-- The ids of the listed entities for which the expression comes out true, in order, or the first
failure.  The records are looked up by id. -/
def View.select {S D : Type} (view : View S D) (now : Instant)
    (record : String → Except SourceError D) (e : Expr) (summaries : List S) :
    Except QueryError (List String) := do
  let matched ← summaries.filterM fun summary =>
    e.verdict (view.answer now summary (record (view.id summary)))
  pure (matched.map view.id)

namespace Snapshot

/-- The last details of a container with an id. -/
def containerRecord (s : Snapshot) (id : String) : Except SourceError ContainerDetails :=
  match (s.containerDetails.filter (·.id == id)).getLast? with
  | some d => .ok d
  | none => .error (.notFound .container id)

/-- The last details of an image with an id. -/
def imageRecord (s : Snapshot) (id : String) : Except SourceError ImageDetails :=
  match (s.imageDetails.filter (·.id == id)).getLast? with
  | some d => .ok d
  | none => .error (.notFound .image id)

/-- The ids of the entities of a kind in a snapshot for which an expression comes out true. -/
def select (s : Snapshot) (kind : EntityKind) (now : Instant) (e : Expr) :
    Except QueryError (List String) :=
  match kind with
  | .container => Container.view.select now s.containerRecord e s.containers
  | .image => Image.view.select now s.imageRecord e s.images

end Snapshot

/-! ### Filtering in order -/

section Filter

variable {ε α : Type} (p : α → Except ε Bool)

/-- What was kept before stays behind what is kept now: the list is built backwards. -/
theorem filterAuxM_eq_map_append (as kept : List α) :
    as.filterAuxM p kept = (as.filterAuxM p []).map (· ++ kept) := by
  induction as generalizing kept with
  | nil => rfl
  | cons a as ih =>
    rw [List.filterAuxM, List.filterAuxM]
    rcases p a with err | b
    · rfl
    · rw [except_ok_bind, except_ok_bind, ih, ih (bif b then [a] else [])]
      rcases as.filterAuxM p [] with err | later
      · rfl
      · cases b <;> simp [Except.map]

theorem filterM_cons (a : α) (as : List α) :
    (a :: as).filterM p = p a >>= fun b => as.filterM p >>= fun kept =>
      pure (if b then a :: kept else kept) := by
  rw [List.filterM, List.filterM, List.filterAuxM]
  rcases p a with err | b
  · rfl
  · rw [except_ok_bind, except_ok_bind, filterAuxM_eq_map_append]
    rcases as.filterAuxM p [] with err | later
    · rfl
    · cases b <;> simp [Except.map, except_ok_bind, pure, Except.pure]

end Filter

/-! ### Scans -/

namespace View

variable {S D ι : Type} {view : View S D} {inspect : String → Inspecting ι D} {now : Instant}
  {record : String → Except SourceError D}

theorem select_cons (e : Expr) (summary : S) (rest : List S) :
    view.select now record e (summary :: rest) =
      e.verdict (view.answer now summary (record (view.id summary))) >>= fun b =>
        view.select now record e rest >>= fun ids =>
          pure (if b then view.id summary :: ids else ids) := by
  rw [select, select, filterM_cons]
  rcases e.verdict (view.answer now summary (record (view.id summary))) with err | b
  · rfl
  · simp only [except_ok_bind]
    rcases rest.filterM fun summary =>
      e.verdict (view.answer now summary (record (view.id summary))) with err | matched
    · rfl
    · cases b <;> rfl

theorem scan_cons (e : Expr) (summary : S) (rest : List S) :
    view.scan inspect now e (summary :: rest) =
      view.matchListed inspect now e summary >>= fun b =>
        view.scan inspect now e rest >>= fun ids =>
          pure (if b then view.id summary :: ids else ids) := rfl

/-- A listed entity starts with nothing fetched, so it is matched with what the inspector has. -/
theorem matchListed_answer (hinspect : ∀ id i, ((inspect id).run.run i).1 = record id) (e : Expr)
    (summary : S) (i : ι) :
    ((view.matchListed inspect now e summary).runFrom i).1 =
      e.verdict (view.answer now summary (record (view.id summary))) := by
  have h : ((Entity.holds view inspect now e).runFrom ({ summary }, i)).1 = _ :=
    Entity.holds_answer e { summary } i
  rwa [Entity.record, hinspect] at h

/-- **A scan is a selection**, if an inspection of an id gives the same at all times. -/
theorem scan_answer (hinspect : ∀ id i, ((inspect id).run.run i).1 = record id) (e : Expr)
    (summaries : List S) (i : ι) :
    ((view.scan inspect now e summaries).runFrom i).1 = view.select now record e summaries := by
  induction summaries generalizing i with
  | nil => rfl
  | cons summary rest ih =>
    rw [scan_cons, runFrom_bind, select_cons, ← matchListed_answer hinspect e summary i]
    rcases (view.matchListed inspect now e summary).runFrom i with ⟨err | b, i'⟩
    · rfl
    -- the inspector goes on in another state, in which it gives the same
    · dsimp only
      rw [runFrom_bind, ← ih i', except_ok_bind]
      rcases (view.scan inspect now e rest).runFrom i' with ⟨err | ids, i''⟩ <;> rfl

end View

namespace Snapshot

theorem findLast?_eq_getLast?_filter {α : Type} (p : α → Bool) (as : List α) :
    findLast? p as = (as.filter p).getLast? := List.getLast?_filter.symm

theorem inspectContainer_eq (s : Snapshot) (id : String) (u : Unit) :
    ((s.inspector.inspectContainer id).run.run u).1 = s.containerRecord id := by
  rw [containerRecord, ← findLast?_eq_getLast?_filter]
  simp only [inspector, inspectorM, container?]
  cases findLast? (fun d => d.id == id) s.containerDetails <;> rfl

theorem inspectImage_eq (s : Snapshot) (id : String) (u : Unit) :
    ((s.inspector.inspectImage id).run.run u).1 = s.imageRecord id := by
  rw [imageRecord, ← findLast?_eq_getLast?_filter]
  simp only [inspector, inspectorM, image?]
  cases findLast? (fun d => d.id == id) s.imageDetails <;> rfl

/-- **The memory of an entity does not show.** -/
theorem scan_eq_select (s : Snapshot) (kind : EntityKind) (now : Instant) (e : Expr) :
    s.scan kind now e = s.select kind now e := by
  cases kind with
  | container => exact View.scan_answer s.inspectContainer_eq e s.containers ()
  | image => exact View.scan_answer s.inspectImage_eq e s.images ()

end Snapshot

end FleetQuery
