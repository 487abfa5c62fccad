import DocBuild.Action
import DocBuild.Pages.Range

/-!
# Parts

A document is built from parts, one after the other: files, rendered HTML, blank pages and documents that
the service has stored. Actions of a part apply to that part alone. A password, a media type and the like are
passed on as they are given; one that does not count as given is left out.
-/

namespace DocBuild

/-- What a part consists of. -/
inductive PartSource where
  | file (input : FileInput) (pages : Option PageRange) (password contentType : Json)
  /-- Markup with the files that it refers to. -/
  | html (markup : FileInput) (assets : List FileInput) (layout : Json)
  | blank (count : Json) (layout : Json)
  | stored (id layer : Json) (pages : Option PageRange) (password : Json)
  /-- Something that is no part. -/
  | unsupported (value : Json)

/-- A part with its actions. -/
structure Part where
  source : PartSource
  actions : List Action := []

namespace Part

/-- All pages of a file. -/
def ofFile (input : FileInput) : Part := ⟨.file input none .null .null, []⟩

/-- Some pages of a file. -/
def ofPages (input : FileInput) (first last : Json) : Part :=
  ⟨.file input (some ⟨first, last⟩) .null .null, []⟩

/-- Blank pages. -/
def blank (count : Json) : Part := ⟨.blank count .null, []⟩

/-- The part with actions. -/
def withActions (part : Part) (actions : List Action) : Part := { part with actions }

end Part

end DocBuild
