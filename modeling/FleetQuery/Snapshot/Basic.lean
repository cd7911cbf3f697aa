import FleetQuery.Json.Bytes
import FleetQuery.Record.Container
import FleetQuery.Record.Image
import FleetQuery.Snapshot.Error

/-!
# Snapshots

A snapshot lists containers and images and holds details of some of them.  The last details with
an id are the ones that count.
-/

namespace FleetQuery

/-- Listings and details of containers and images. -/
structure Snapshot where
  /-- The containers, as listed. -/
  containers : List ContainerSummary := []
  /-- Details of containers. -/
  containerDetails : List ContainerDetails := []
  /-- The images, as listed. -/
  images : List ImageSummary := []
  /-- Details of images. -/
  imageDetails : List ImageDetails := []
  deriving DecidableEq, Repr

namespace Snapshot

/-- The last element of a list that passes a test. -/
def findLast? {α : Type} (p : α → Bool) (as : List α) : Option α := as.reverse.find? p

/-- The details of the container with an id. -/
def container? (s : Snapshot) (id : String) : Option ContainerDetails :=
  findLast? (·.id == id) s.containerDetails

/-- The details of the image with an id. -/
def image? (s : Snapshot) (id : String) : Option ImageDetails :=
  findLast? (·.id == id) s.imageDetails

/-- The number of listed entities of a kind. -/
def size (s : Snapshot) : EntityKind → Nat
  | .container => s.containers.length
  | .image => s.images.length

open Json in
/-- The fields of a snapshot. -/
def layout :
    Layout [List ContainerSummary, List ContainerDetails, List ImageSummary, List ImageDetails] :=
  .cons ⟨"containers", .list ContainerSummary.codec, some []⟩ <|
  .cons ⟨"container_details", .list ContainerDetails.codec, some []⟩ <|
  .cons ⟨"images", .list ImageSummary.codec, some []⟩ <|
  .cons ⟨"image_details", .list ImageDetails.codec, some []⟩ .nil

/-- Snapshots in JSON. -/
def codec : Json.Codec Snapshot :=
  layout.codec
    (fun (containers, containerDetails, images, imageDetails, _) =>
      ⟨containers, containerDetails, images, imageDetails⟩)
    fun s => (s.containers, s.containerDetails, s.images, s.imageDetails, ())

/-- Read a snapshot from bytes, or from what could not be read.  `reason` tells of bytes that are no
snapshot what is wrong with them. -/
def read (reason : ByteArray → String) : Except FileFault ByteArray → Except SourceError Snapshot
  | .error fault => .error (.invalid .unreadable fault.message)
  | .ok bytes =>
    match Json.readWhole codec.read (Json.textOf bytes) with
    | .error e => .error (.invalid e (reason bytes))
    | .ok s => .ok s

end Snapshot

end FleetQuery
