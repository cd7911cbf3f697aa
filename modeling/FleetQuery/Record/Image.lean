import FleetQuery.Record.Run

/-!
# Records of images

A listing gives a summary of every image; inspecting one gives its details.
-/

namespace FleetQuery

/-- An image as it is listed. -/
structure ImageSummary where
  /-- The id. -/
  id : String
  /-- Its size in bytes. -/
  size : Int := 0
  /-- Its size with the layers that it shares, where this is told apart. -/
  virtualSize? : Option Int := none
  deriving DecidableEq, Repr

/-- An image as it is inspected. -/
structure ImageDetails where
  /-- The id. -/
  id : String
  /-- A comment. -/
  comment : String := ""
  /-- The author. -/
  author : String := ""
  /-- The architecture that it is made for. -/
  architecture : String := ""
  /-- The version of the program that made it. -/
  dockerVersion : String := ""
  /-- When it was created. -/
  created? : Option Instant := none
  /-- What its containers run. -/
  config? : Option RunConfig := none
  deriving DecidableEq, Repr

open Json

namespace ImageSummary

/-- The size in bytes, shared layers included. -/
def totalSize (i : ImageSummary) : Int := i.virtualSize?.getD i.size

/-- The fields of a summary. -/
def layout : Layout [String, Int, Option Int] :=
  .cons ⟨"Id", .text, none⟩ <|
  .cons ⟨"Size", .integer, some 0⟩ <|
  .cons ⟨"VirtualSize", .optional .integer, some none⟩ .nil

/-- Summaries in JSON. -/
def codec : Codec ImageSummary :=
  layout.codec (fun (id, size, virtualSize?, _) => ⟨id, size, virtualSize?⟩)
    fun i => (i.id, i.size, i.virtualSize?, ())

end ImageSummary

namespace ImageDetails

/-- The fields of details. -/
def layout :
    Layout [String, String, String, String, String, Option Instant, Option RunConfig] :=
  .cons ⟨"Id", .text, none⟩ <|
  .cons ⟨"Comment", .text, some ""⟩ <|
  .cons ⟨"Author", .text, some ""⟩ <|
  .cons ⟨"Architecture", .text, some ""⟩ <|
  .cons ⟨"DockerVersion", .text, some ""⟩ <|
  .cons ⟨"Created", .optional .instant, some none⟩ <|
  .cons ⟨"Config", .optional RunConfig.codec, some none⟩ .nil

/-- Details in JSON. -/
def codec : Codec ImageDetails :=
  layout.codec
    (fun (id, comment, author, architecture, dockerVersion, created?, config?, _) =>
      ⟨id, comment, author, architecture, dockerVersion, created?, config?⟩)
    fun d =>
      (d.id, d.comment, d.author, d.architecture, d.dockerVersion, d.created?, d.config?, ())

end ImageDetails

end FleetQuery
