import FleetQuery.Proofs.Entity.Fields
import FleetQuery.Proofs.Entity.Scan

/-!
# Both kinds at once

Containers and images differ in what is listed, what an inspection gives and which fields there
are, and in nothing else.  Here these become functions of the kind, so that a fact about scans or
entities is stated and proved for both kinds at once:

* `EntityKind.Summary`, `EntityKind.Details`, `EntityKind.view` : what entities of a kind are;
* `Inspector.list`, `Inspector.inspect` : listing and inspecting entities of a kind;
* `Snapshot.listed`, `Snapshot.record` : what a snapshot lists and has on record.
-/

namespace FleetQuery

variable {ι : Type}

/-! ### Fields in the listing -/

theorem Container.mem_summaryFields_iff (field : Field) :
    field ∈ [.named "id", .named "image"] ↔
      ∃ live, Container.view.reading? field = some (.summary live) := by
  cases field with
  | named name =>
    simp only [view, reading?, named?]
    split <;> simp_all
  | member family key =>
    simp only [view, reading?]
    split <;> simp

theorem Image.mem_summaryFields_iff (field : Field) :
    field ∈ [.named "id", .named "size"] ↔
      ∃ live, Image.view.reading? field = some (.summary live) := by
  cases field with
  | named name =>
    simp only [view, reading?, named?]
    split <;> simp_all
  | member family key =>
    simp only [view, reading?]
    split <;> simp

/-! ### Kinds -/

namespace EntityKind

/-- What a listing says of an entity of a kind. -/
def Summary : EntityKind → Type
  | container => ContainerSummary
  | image => ImageSummary

/-- What an inspection gives of an entity of a kind. -/
def Details : EntityKind → Type
  | container => ContainerDetails
  | image => ImageDetails

/-- The fields of a kind. -/
def view : (kind : EntityKind) → View kind.Summary kind.Details
  | container => Container.view
  | image => Image.view

/-- The fields that are read off the listing. -/
def summaryFields : EntityKind → List Field
  | container => [.named "id", .named "image"]
  | image => [.named "id", .named "size"]

theorem schema_view (kind : EntityKind) : kind.view.schema = kind.schema := by
  cases kind <;> rfl

theorem honest_view (kind : EntityKind) : kind.view.Honest := by
  cases kind with
  | container => exact Container.honest
  | image => exact Image.honest

theorem mem_summaryFields_iff (kind : EntityKind) (field : Field) :
    field ∈ kind.summaryFields ↔ ∃ live, kind.view.reading? field = some (.summary live) := by
  cases kind with
  | container => exact Container.mem_summaryFields_iff field
  | image => exact Image.mem_summaryFields_iff field

/-- Of the fields that filters may use, those that are not read off the listing are read off the
details. -/
theorem inDetails_iff_of_accepts {kind : EntityKind} {c : Comparison}
    (h : kind.schema.Accepts c) :
    kind.view.inDetails c.field = true ↔ c.field ∉ kind.summaryFields := by
  have hserves := kind.honest_view.serves_of_accepts (kind.schema_view ▸ h)
  rw [View.inDetails_iff, mem_summaryFields_iff]
  rw [View.Serves] at hserves
  cases hreading : kind.view.reading? c.field with
  | none =>
    rw [hreading] at hserves
    exact hserves.elim
  | some reading => cases reading <;> simp

end EntityKind

namespace Inspector

/-- List the entities of a kind. -/
def list (inspector : Inspector ι) : (kind : EntityKind) → Inspecting ι (List kind.Summary)
  | .container => inspector.listContainers
  | .image => inspector.listImages

/-- The details of the entity of a kind with an id. -/
def inspect (inspector : Inspector ι) : (kind : EntityKind) → String → Inspecting ι kind.Details
  | .container => inspector.inspectContainer
  | .image => inspector.inspectImage

theorem watched_list (inspector : Inspector ι) (kind : EntityKind) :
    inspector.watched.list kind = beside (inspector.list kind) := by
  cases kind <;> rfl

theorem watched_inspect (inspector : Inspector ι) (kind : EntityKind) :
    inspector.watched.inspect kind = fun id => recording id (inspector.inspect kind id) := by
  cases kind <;> rfl

end Inspector

theorem scan_eq (inspector : Inspector ι) (kind : EntityKind) (now : Instant) (e : Expr) :
    scan inspector kind now e =
      listing (inspector.list kind) >>= kind.view.scan (inspector.inspect kind) now e := by
  cases kind <;> rfl

namespace Snapshot

/-- The entities of a kind, as listed. -/
def listed (s : Snapshot) : (kind : EntityKind) → List kind.Summary
  | .container => s.containers
  | .image => s.images

/-- The last details of an entity of a kind with an id. -/
def record (s : Snapshot) : (kind : EntityKind) → String → Except SourceError kind.Details
  | .container => s.containerRecord
  | .image => s.imageRecord

theorem inspect_eq (s : Snapshot) (kind : EntityKind) (id : String) (u : Unit) :
    ((s.inspector.inspect kind id).run.run u).1 = s.record kind id := by
  cases kind with
  | container => exact s.inspectContainer_eq id u
  | image => exact s.inspectImage_eq id u

theorem scan_eq_selectListed (s : Snapshot) (kind : EntityKind) (now : Instant) (e : Expr) :
    s.scan kind now e = kind.view.select now (s.record kind) e (s.listed kind) := by
  rw [scan, scan_eq]
  cases kind with
  | container => exact View.scan_answer s.inspectContainer_eq e s.containers ()
  | image => exact View.scan_answer s.inspectImage_eq e s.images ()

end Snapshot

end FleetQuery
