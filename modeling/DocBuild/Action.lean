import DocBuild.FileInput
import DocBuild.Json.Printer

/-!
# Actions

An action is something the service does to a document or to one part of it: recognise text, stamp a
watermark, rotate, flatten annotations, redact, import annotations. Options are passed on as they are
given; an option that is null is left out. Some actions need a file.
-/

namespace DocBuild

/-- The kinds of actions. -/
inductive ActionKind where
  | ocr
  | watermarkText
  | watermarkImage
  | rotate
  | flatten
  | createRedactions
  | applyRedactions
  | applyInstantJson
  | applyXfdf
deriving DecidableEq

namespace ActionKind

/-- The name of a kind in messages. -/
def name : ActionKind → Text
  | ocr => "OCR"
  | watermarkText => "WATERMARK_TEXT"
  | watermarkImage => "WATERMARK_IMAGE"
  | rotate => "ROTATE"
  | flatten => "FLATTEN"
  | createRedactions => "CREATE_REDACTIONS"
  | applyRedactions => "APPLY_REDACTIONS"
  | applyInstantJson => "APPLY_INSTANT_JSON"
  | applyXfdf => "APPLY_XFDF"

/-- The type by which the service knows a kind. -/
def wireType : ActionKind → Text
  | ocr => "ocr"
  | watermarkText => "watermark"
  | watermarkImage => "watermark"
  | rotate => "rotate"
  | flatten => "flatten"
  | createRedactions => "createRedactions"
  | applyRedactions => "applyRedactions"
  | applyInstantJson => "applyInstantJson"
  | applyXfdf => "applyXfdf"

/-- The member that refers to the file of an action, for the kinds that need one. -/
def fileField? : ActionKind → Option Text
  | watermarkImage => some "image"
  | applyInstantJson => some "file"
  | applyXfdf => some "file"
  | _ => none

/-- All kinds. -/
def all : List ActionKind :=
  [ocr, watermarkText, watermarkImage, rotate, flatten, createRedactions, applyRedactions,
   applyInstantJson, applyXfdf]

end ActionKind

/-- An action with its options and its file. -/
structure Action where
  kind : ActionKind
  options : Members
  file : Option FileInput

/-- Why an action cannot be made. -/
inductive ActionError where
  | noWatermarkText
  | badRotation (angle : Json)

namespace ActionError

/-- The words for an action that cannot be made. -/
def message : ActionError → Text
  | noWatermarkText => "Watermark text is required"
  | badRotation angle => "Rotation must be one of [90, 180, 270], got " ++ angle.display

/-- An action that cannot be made is an error of the caller. -/
def toFault (e : ActionError) : Fault :=
  .validation e.message <|
    match e with
    | noWatermarkText => none
    | badRotation angle => some [("rotate_by", angle)]

end ActionError

/-- Where and how a watermark is stamped; what is null is left to the service. -/
structure Placement where
  width : Json := .null
  height : Json := .null
  opacity : Json := .null
  rotation : Json := .null
  top : Json := .null
  left : Json := .null
  right : Json := .null
  bottom : Json := .null

namespace Placement

/-- The whole extent of the page. -/
def fullSize : Json := .obj [("value", .int 100), ("unit", .str "%")]

/-- The extents, which are the whole page unless they are given. -/
def extents (p : Placement) : Members :=
  [("width", if p.width.isGiven then p.width else fullSize),
   ("height", if p.height.isGiven then p.height else fullSize)]

/-- The distances from the edges. -/
def edges (p : Placement) : Members :=
  [("top", p.top), ("left", p.left), ("right", p.right), ("bottom", p.bottom)]

/-- How the watermark lies on the page. -/
def appearance (p : Placement) : Members := [("opacity", p.opacity), ("rotation", p.rotation)]

end Placement

/-- The font of a text watermark. -/
structure Font where
  size : Json := .null
  color : Json := .null
  family : Json := .null
  style : Json := .null

/-- The members of a font. -/
def Font.members (f : Font) : Members :=
  [("fontSize", f.size), ("fontColor", f.color), ("fontFamily", f.family), ("fontStyle", f.style)]

/-- What a redaction covers, and how it looks. -/
structure RedactionScope where
  caseSensitive : Json := .null
  includeAnnotations : Json := .null
  start : Json := .null
  limit : Json := .null
  content : Json := .null

namespace Action

/-- Recognises text in one language or several. -/
def ocr (language : Json) : Action := ⟨.ocr, [("language", language)], none⟩

/-- Stamps a text on every page. -/
def watermarkText (text : Json) (placement : Placement) (font : Font) : Except ActionError Action :=
  if text.isGiven then
    .ok ⟨.watermarkText,
      ([("text", text)] : Members) ++ placement.extents ++
        Members.compacted (placement.appearance ++ font.members ++ placement.edges), none⟩
  else .error .noWatermarkText

/-- Stamps an image on every page. -/
def watermarkImage (image : Option FileInput) (placement : Placement) : Action :=
  ⟨.watermarkImage,
    placement.extents ++ Members.compacted (placement.appearance ++ placement.edges), image⟩

/-- Rotates by a quarter, a half or three quarters of a turn. -/
def rotate (angle : Json) : Except ActionError Action :=
  if angle.isNumber 90 || angle.isNumber 180 || angle.isNumber 270 then
    .ok ⟨.rotate, [("rotateBy", angle)], none⟩
  else .error (.badRotation angle)

/-- Burns annotations into the pages: the given ones, or all of them. -/
def flatten (annotationIds : Json) : Action :=
  ⟨.flatten, Members.compacted [("annotationIds", annotationIds)], none⟩

/-- Marks for redaction what a strategy finds. -/
def createRedactions (strategy : Text) (search : Members) (content : Json) : Action :=
  let marked : Members :=
    [("strategy", .str strategy), ("strategyOptions", .obj (Members.compacted search))]
  ⟨.createRedactions, if content.isGiven then marked.set "content" content else marked, none⟩

/-- Marks every occurrence of a text. -/
def createRedactionsText (text : Json) (scope : RedactionScope) : Action :=
  createRedactions "text"
    [("text", text), ("caseSensitive", scope.caseSensitive),
     ("includeAnnotations", scope.includeAnnotations), ("start", scope.start), ("limit", scope.limit)]
    scope.content

/-- Marks every match of a regular expression. -/
def createRedactionsRegex (regex : Json) (scope : RedactionScope) : Action :=
  createRedactions "regex"
    [("regex", regex), ("caseSensitive", scope.caseSensitive),
     ("includeAnnotations", scope.includeAnnotations), ("start", scope.start), ("limit", scope.limit)]
    scope.content

/-- Marks the matches of a pattern that the service knows by name. Case does not apply. -/
def createRedactionsPreset (preset : Json) (scope : RedactionScope) : Action :=
  createRedactions "preset"
    [("preset", preset), ("includeAnnotations", scope.includeAnnotations), ("start", scope.start),
     ("limit", scope.limit)]
    scope.content

/-- Applies all pending redactions. -/
def applyRedactions : Action := ⟨.applyRedactions, [], none⟩

/-- Imports annotations in JSON. -/
def applyInstantJson (file : Option FileInput) : Action := ⟨.applyInstantJson, [], file⟩

/-- Imports annotations in XFDF. -/
def applyXfdf (file : Option FileInput) (ignorePageRotation richTextEnabled : Json) : Action :=
  ⟨.applyXfdf,
    Members.compacted
      [("ignorePageRotation", ignorePageRotation), ("richTextEnabled", richTextEnabled)], file⟩

end Action

end DocBuild
