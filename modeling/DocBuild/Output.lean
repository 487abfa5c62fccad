import DocBuild.Pages.Range
import DocBuild.Json.Printer

/-!
# Output formats

What a build produces: a PDF of some flavour, page images, an office document, extracted content, HTML
or Markdown. Options are passed on as they are given; an option that is null is left out.
-/

namespace DocBuild

/-- The kinds of outputs. -/
inductive OutputType where
  | pdf
  | pdfa
  | pdfua
  | image
  | docx
  | xlsx
  | pptx
  | jsonContent
  | html
  | markdown
deriving DecidableEq

namespace OutputType

/-- The type by which the service knows a kind of output. -/
def name : OutputType → Text
  | pdf => "pdf"
  | pdfa => "pdfa"
  | pdfua => "pdfua"
  | image => "image"
  | docx => "docx"
  | xlsx => "xlsx"
  | pptx => "pptx"
  | jsonContent => "json-content"
  | html => "html"
  | markdown => "markdown"

/-- All kinds of outputs. -/
def all : List OutputType :=
  [pdf, pdfa, pdfua, image, docx, xlsx, pptx, jsonContent, html, markdown]

/-- The kind of output with a name. -/
def ofName? (t : Text) : Option OutputType := all.find? (·.name = t)

/-- HTML and Markdown come as text. -/
def isText : OutputType → Bool
  | html | markdown => true
  | _ => false

end OutputType

/-- An output format with its options. -/
structure Output where
  type : OutputType
  options : Members

/-- Why an output cannot be made. -/
inductive OutputError where
  | imageFormat (format : Json)
  | noImageSize
  | officeFormat (format : Json)
  | htmlLayout (layout : Json)
  | targetFormat (format : Text)
  /-- A format that is no text and so has no small letters. -/
  | notLowered (format : Json)

namespace OutputError

/-- The words for an output that cannot be made. -/
def message : OutputError → Text
  | imageFormat f =>
    "Unsupported image format '" ++ f.display ++ "'. Choose from: ['png', 'jpeg', 'jpg', 'webp']"
  | noImageSize =>
    "Image output requires at least one of the following options: dpi, height, width"
  | officeFormat f =>
    "Unsupported office format '" ++ f.display ++ "'. Choose from: ['docx', 'xlsx', 'pptx']"
  | htmlLayout l => "Unsupported HTML layout '" ++ l.display ++ "'. Choose from: ['page', 'reflow']"
  | targetFormat f => "Unsupported target format: " ++ f
  | notLowered f => (ForeignError.notOffered f.kindName "lower").text

/-- An output that cannot be made is an error of the caller. -/
def toFault (e : OutputError) : Fault :=
  match e with
  | targetFormat f => .validation e.message (some [("target_format", .str f)])
  | notLowered _ => .ofForeign .missingOperation e.message
  | _ => .validation e.message none

end OutputError

/-- What any PDF may be given. -/
structure DocumentOptions where
  metadata : Json := .null
  labels : Json := .null
  userPassword : Json := .null
  ownerPassword : Json := .null
  userPermissions : Json := .null
  optimize : Json := .null

/-- The members of what any PDF may be given. -/
def DocumentOptions.members (o : DocumentOptions) : Members :=
  Members.compacted
    [("metadata", o.metadata), ("labels", o.labels), ("user_password", o.userPassword),
     ("owner_password", o.ownerPassword), ("user_permissions", o.userPermissions),
     ("optimize", o.optimize)]

/-- What an archival PDF may be given besides. -/
structure ArchivalOptions where
  conformance : Json := .null
  vectorization : Json := .null
  rasterization : Json := .null

/-- The kinds of content that can be extracted. -/
structure ExtractionOptions where
  plainText : Json := .null
  structuredText : Json := .null
  keyValuePairs : Json := .null
  tables : Json := .null
  language : Json := .null

/-- The size of page images. -/
structure ImageSize where
  width : Json := .null
  height : Json := .null
  dpi : Json := .null

namespace Output

/-- A plain PDF. -/
def pdf (options : DocumentOptions) : Output := ⟨.pdf, options.members⟩

/-- An archival PDF. -/
def pdfa (archival : ArchivalOptions) (options : DocumentOptions) : Output :=
  ⟨.pdfa,
    Members.compacted
      [("conformance", archival.conformance), ("vectorization", archival.vectorization),
       ("rasterization", archival.rasterization)] ++ options.members⟩

/-- An accessible PDF. -/
def pdfua (options : DocumentOptions) : Output := ⟨.pdfua, options.members⟩

/-- The formats of page images, with their media types. -/
def imageMediaTypes : List (Text × Text) :=
  [("png", "image/png"), ("jpeg", "image/jpeg"), ("jpg", "image/jpeg"), ("webp", "image/webp")]

/-- Page images; a width, a height or a resolution is needed. -/
def image (format : Json) (pages : Option PageRange) (size : ImageSize) : Except OutputError Output :=
  if !imageMediaTypes.any (fun known => format.isText known.1) then .error (.imageFormat format)
  else if !(size.dpi.isGiven || size.width.isGiven || size.height.isGiven) then .error .noImageSize
  else
    .ok ⟨.image,
      Members.compacted
        [("format", format), ("pages", (pages.map PageRange.toJson).getD .null),
         ("width", size.width), ("height", size.height), ("dpi", size.dpi)]⟩

/-- The formats of office documents. -/
def officeFormats : List OutputType := [.docx, .xlsx, .pptx]

/-- An office document. -/
def office (format : Json) : Except OutputError Output :=
  match officeFormats.find? (fun type => format.isText type.name) with
  | some type => .ok ⟨type, []⟩
  | none => .error (.officeFormat format)

/-- Extracted content. -/
def jsonContent (options : ExtractionOptions) : Output :=
  ⟨.jsonContent,
    Members.compacted
      [("plainText", options.plainText), ("structuredText", options.structuredText),
       ("keyValuePairs", options.keyValuePairs), ("tables", options.tables),
       ("language", options.language)]⟩

/-- HTML that keeps the pages or reflows them. -/
def html (layout : Json) : Except OutputError Output :=
  if layout.isText "page" || layout.isText "reflow" then .ok ⟨.html, [("layout", layout)]⟩
  else .error (.htmlLayout layout)

/-- Markdown. -/
def markdown : Output := ⟨.markdown, []⟩

/-- The output as the service reads it; an option named `type` wins over the kind of output. -/
def members (o : Output) : Members := Members.overlay [("type", .str o.type.name)] o.options

/-- The output as a value. -/
def toJson (o : Output) : Json := .obj o.members

/-- The media type and the file name of what an output produces. -/
def mediaType (o : Output) : Text × Text :=
  match o.type with
  | .pdf | .pdfa | .pdfua => ("application/pdf", "output.pdf")
  | .image =>
    let format := ((o.options.get? "format").getD (.str "png")).display
    ((imageMediaTypes.lookup format).getD "application/octet-stream", "output." ++ format)
  | .docx =>
    ("application/vnd.openxmlformats-officedocument.wordprocessingml.document", "output.docx")
  | .xlsx => ("application/vnd.openxmlformats-officedocument.spreadsheetml.sheet", "output.xlsx")
  | .pptx =>
    ("application/vnd.openxmlformats-officedocument.presentationml.presentation", "output.pptx")
  | .html => ("text/html", "output.html")
  | .markdown => ("text/markdown", "output.md")
  | .jsonContent => ("application/json", "output.json")

/-- The resolution of page images when a file is converted to them. -/
def conversionDpi : Int := 300

/-- The output that converts to a format, named in small or capital letters. -/
def ofTargetName (format : Text) : Except OutputError Output :=
  let target := Text.lowered format
  if target = "pdf" then .ok (pdf {})
  else if target = "pdfa" then .ok (pdfa {} {})
  else if target = "pdfua" then .ok (pdfua {})
  else if (officeFormats.find? (·.name = target)).isSome then office (.str target)
  else if (imageMediaTypes.lookup target).isSome then
    image (.str target) none { dpi := .int conversionDpi }
  else if target = "html" then html (.str "page")
  else if target = "markdown" then .ok markdown
  else .error (.targetFormat format)

/-- The output that converts to a format. -/
def ofTargetFormat : Json → Except OutputError Output
  | .str format => ofTargetName format
  | format => .error (.notLowered format)

end Output

end DocBuild
