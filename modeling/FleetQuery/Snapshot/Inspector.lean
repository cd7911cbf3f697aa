import FleetQuery.Snapshot.Basic

/-!
# Inspectors

An inspector lists entities and gives details of single ones, in any monad.  An `Inspector` keeps a
state of type `ι`: a snapshot needs none, and an inspector that is watched records the ids that are
inspected.
-/

namespace FleetQuery

/-- Something that lists and inspects entities. -/
structure InspectorM (m : Type → Type) where
  /-- List the containers. -/
  listContainers : ExceptT SourceError m (List ContainerSummary)
  /-- The details of the container with an id. -/
  inspectContainer : String → ExceptT SourceError m ContainerDetails
  /-- List the images. -/
  listImages : ExceptT SourceError m (List ImageSummary)
  /-- The details of the image with an id. -/
  inspectImage : String → ExceptT SourceError m ImageDetails

section

variable {m : Type → Type} [Monad m]

/-- The inspector that answers from a snapshot. -/
def Snapshot.inspectorM (s : Snapshot) : InspectorM m where
  listContainers := pure s.containers
  inspectContainer id :=
    match s.container? id with
    | some d => pure d
    | none => throw (.notFound .container id)
  listImages := pure s.images
  inspectImage id :=
    match s.image? id with
    | some d => pure d
    | none => throw (.notFound .image id)

/-- The inspector that does something else before each inspection. -/
def InspectorM.announcing (i : InspectorM m) (announce : EntityKind → String → m Unit) :
    InspectorM m where
  listContainers := i.listContainers
  inspectContainer id := do
    announce .container id
    i.inspectContainer id
  listImages := i.listImages
  inspectImage id := do
    announce .image id
    i.inspectImage id

end

/-- A listing or an inspection, which may fail and may change the state of the inspector. -/
abbrev Inspecting (ι α : Type) := ExceptT SourceError (StateM ι) α

/-- An inspector with a state. -/
abbrev Inspector (ι : Type) := InspectorM (StateM ι)

/-- The inspector that answers from a snapshot, whatever its state. -/
def Snapshot.inspector {ι : Type} (s : Snapshot) : Inspector ι := s.inspectorM

namespace Inspector

variable {ι : Type}

/-- An action of an inspector, next to a list of ids that it does not touch. -/
def beside {α : Type} (action : Inspecting ι α) : Inspecting (ι × List String) α :=
  ExceptT.mk fun (i, ids) =>
    let (result, i) := action.run.run i
    (result, i, ids)

/-- An action that records an id first. -/
def recording {α : Type} (id : String) (action : Inspecting ι α) :
    Inspecting (ι × List String) α := do
  modify fun (i, ids) => (i, ids ++ [id])
  beside action

/-- The inspector that also records the ids that are inspected, failures included. -/
def watched (i : Inspector ι) : Inspector (ι × List String) where
  listContainers := beside i.listContainers
  inspectContainer id := recording id (i.inspectContainer id)
  listImages := beside i.listImages
  inspectImage id := recording id (i.inspectImage id)

end Inspector

end FleetQuery
