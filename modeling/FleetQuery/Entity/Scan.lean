import FleetQuery.Entity.Container
import FleetQuery.Entity.Image

/-!
# Scans

A scan lists the entities of a kind and gives the ids of those that match a filter.  Like the
matching of entities it runs in any monad, and at a given instant in one with a state.
-/

namespace FleetQuery

/-- The fields and operators of filters on a kind of entity. -/
def EntityKind.schema : EntityKind → Schema
  | container => Container.schema
  | image => Image.schema

section Monads

variable {m : Type → Type} [Monad m]

/-- A listing as part of a query. -/
def listing {α : Type} (action : ExceptT SourceError m α) : ExceptT QueryError m α :=
  action.adapt .source

/-- The ids of the containers that match. -/
def scanContainersM (inspector : InspectorM m) (clock : m Instant) (e : Expr) :
    ExceptT QueryError m (List String) := do
  let summaries ← listing inspector.listContainers
  Container.view.scanM inspector.inspectContainer clock e summaries

/-- The ids of the images that match. -/
def scanImagesM (inspector : InspectorM m) (clock : m Instant) (e : Expr) :
    ExceptT QueryError m (List String) := do
  let summaries ← listing inspector.listImages
  Image.view.scanM inspector.inspectImage clock e summaries

/-- The ids of the entities of a kind that match. -/
def scanM (inspector : InspectorM m) (kind : EntityKind) (clock : m Instant) (e : Expr) :
    ExceptT QueryError m (List String) :=
  match kind with
  | .container => scanContainersM inspector clock e
  | .image => scanImagesM inspector clock e

end Monads

/-- The ids of the entities of a kind that match at the instant `now`. -/
def scan {ι : Type} (inspector : Inspector ι) (kind : EntityKind) (now : Instant) (e : Expr) :
    Answering ι (List String) :=
  scanM inspector kind (pure now) e

/-- The ids of the entities of a kind in a snapshot that match, or the first failure. -/
def Snapshot.scan (s : Snapshot) (kind : EntityKind) (now : Instant) (e : Expr) :
    Except QueryError (List String) :=
  ((FleetQuery.scan (ι := Unit) s.inspector kind now e).run.run ()).1

/-- The ids of the entities whose details a scan of a snapshot asks for, in order. -/
def Snapshot.inspected (s : Snapshot) (kind : EntityKind) (now : Instant) (e : Expr) :
    List String :=
  let inspector : Inspector (Unit × List String) := (s.inspector : Inspector Unit).watched
  ((FleetQuery.scan inspector kind now e).run.run ((), [])).2.2

end FleetQuery
