import DocBuild.Call.Arguments

/-!
# Actions, outputs and parts by name

The calls that make actions, outputs and parts, with the names of their arguments.
-/

namespace DocBuild

/-- The fault of asking a collection of calls for a name that it does not have. -/
def notCollected (collection name : Text) : Fault :=
  .ofForeign .missingOperation ("module '" ++ collection ++ "' has no attribute '" ++ name ++ "'")

/-- The arguments that place a watermark. -/
def Placement.names : List Text :=
  ["width", "height", "opacity", "rotation", "top", "left", "right", "bottom"]

/-- The placement that arguments describe. -/
def Placement.ofArguments (args : Arguments) : Placement where
  width := args.value "width"
  height := args.value "height"
  opacity := args.value "opacity"
  rotation := args.value "rotation"
  top := args.value "top"
  left := args.value "left"
  right := args.value "right"
  bottom := args.value "bottom"

/-- The arguments that choose a font. -/
def Font.names : List Text := ["font_size", "font_color", "font_family", "font_style"]

/-- The font that arguments describe. -/
def Font.ofArguments (args : Arguments) : Font where
  size := args.value "font_size"
  color := args.value "font_color"
  family := args.value "font_family"
  style := args.value "font_style"

/-- The arguments that every redaction may have. -/
def RedactionScope.names : List Text := ["include_annotations", "start", "limit", "content"]

/-- The arguments of a redaction to which case applies. -/
def RedactionScope.casedNames : List Text := "case_sensitive" :: names

/-- The scope that arguments describe. -/
def RedactionScope.ofArguments (args : Arguments) : RedactionScope where
  caseSensitive := args.value "case_sensitive"
  includeAnnotations := args.value "include_annotations"
  start := args.value "start"
  limit := args.value "limit"
  content := args.value "content"

namespace Action

/-- The calls that make actions. -/
def calls : List (NamedCall (Except ActionError Action)) :=
  [⟨"ocr", ["language"], [], fun args => .ok (ocr (args.value "language"))⟩,
   ⟨"watermark_text", ["text"], Placement.names ++ Font.names, fun args =>
     watermarkText (args.value "text") (.ofArguments args) (.ofArguments args)⟩,
   ⟨"watermark_image", ["image"], Placement.names, fun args =>
     .ok (watermarkImage (args.file? "image") (.ofArguments args))⟩,
   ⟨"rotate", ["rotate_by"], [], fun args => rotate (args.value "rotate_by")⟩,
   ⟨"flatten", [], ["annotation_ids"], fun args => .ok (flatten (args.value "annotation_ids"))⟩,
   ⟨"create_redactions_text", ["text"], RedactionScope.casedNames, fun args =>
     .ok (createRedactionsText (args.value "text") (.ofArguments args))⟩,
   ⟨"create_redactions_regex", ["regex"], RedactionScope.casedNames, fun args =>
     .ok (createRedactionsRegex (args.value "regex") (.ofArguments args))⟩,
   ⟨"create_redactions_preset", ["preset"], RedactionScope.names, fun args =>
     .ok (createRedactionsPreset (args.value "preset") (.ofArguments args))⟩,
   ⟨"apply_redactions", [], [], fun _ => .ok applyRedactions⟩,
   ⟨"apply_instant_json", ["file"], [], fun args => .ok (applyInstantJson (args.file? "file"))⟩,
   ⟨"apply_xfdf", ["file"], ["ignore_page_rotation", "rich_text_enabled"], fun args =>
     .ok (applyXfdf (args.file? "file") (args.value "ignore_page_rotation")
       (args.value "rich_text_enabled"))⟩]

/-- Makes the action with a name. -/
def call (name : Text) (args : Arguments) : Except Fault Action := do
  let unknown := notCollected "docassembly.build.actions" name
  (← NamedCall.make calls unknown name args).mapError ActionError.toFault

end Action

/-- The arguments that any PDF may have. -/
def DocumentOptions.names : List Text :=
  ["metadata", "labels", "user_password", "owner_password", "user_permissions", "optimize"]

/-- The options of a PDF that arguments describe. -/
def DocumentOptions.ofArguments (args : Arguments) : DocumentOptions where
  metadata := args.value "metadata"
  labels := args.value "labels"
  userPassword := args.value "user_password"
  ownerPassword := args.value "owner_password"
  userPermissions := args.value "user_permissions"
  optimize := args.value "optimize"

/-- The arguments that an archival PDF may have besides. -/
def ArchivalOptions.names : List Text := ["conformance", "vectorization", "rasterization"]

/-- The options of an archival PDF that arguments describe. -/
def ArchivalOptions.ofArguments (args : Arguments) : ArchivalOptions where
  conformance := args.value "conformance"
  vectorization := args.value "vectorization"
  rasterization := args.value "rasterization"

/-- The arguments that choose what is extracted. -/
def ExtractionOptions.names : List Text :=
  ["plain_text", "structured_text", "key_value_pairs", "tables", "language"]

/-- The kinds of content that arguments choose. -/
def ExtractionOptions.ofArguments (args : Arguments) : ExtractionOptions where
  plainText := args.value "plain_text"
  structuredText := args.value "structured_text"
  keyValuePairs := args.value "key_value_pairs"
  tables := args.value "tables"
  language := args.value "language"

/-- The size of images that arguments describe. -/
def ImageSize.ofArguments (args : Arguments) : ImageSize where
  width := args.value "width"
  height := args.value "height"
  dpi := args.value "dpi"

namespace Output

/-- The calls that make outputs. -/
def calls : List (NamedCall (Except OutputError Output)) :=
  [⟨"pdf", [], DocumentOptions.names, fun args => .ok (pdf (.ofArguments args))⟩,
   ⟨"pdfa", [], ArchivalOptions.names ++ DocumentOptions.names, fun args =>
     .ok (pdfa (.ofArguments args) (.ofArguments args))⟩,
   ⟨"pdfua", [], DocumentOptions.names, fun args => .ok (pdfua (.ofArguments args))⟩,
   ⟨"image", [], ["format", "pages", "width", "height", "dpi"], fun args =>
     image (args.valueOr "format" (.str "png")) (args.range? "pages") (.ofArguments args)⟩,
   ⟨"office", ["format"], [], fun args => office (args.value "format")⟩,
   ⟨"json_content", [], ExtractionOptions.names, fun args => .ok (jsonContent (.ofArguments args))⟩,
   ⟨"html", [], ["layout"], fun args => html (args.valueOr "layout" (.str "page"))⟩,
   ⟨"markdown", [], [], fun _ => .ok markdown⟩]

/-- Makes the output with a name. -/
def call (name : Text) (args : Arguments) : Except Fault Output := do
  let unknown := notCollected "docassembly.build.outputs" name
  (← NamedCall.make calls unknown name args).mapError OutputError.toFault

end Output

namespace Part

/-- The calls that make parts. -/
def calls : List (NamedCall Part) :=
  [⟨"file", ["file"], ["pages", "password", "content_type", "actions"], fun args =>
     ⟨.file (args.file "file") (args.range? "pages") (args.value "password")
       (args.value "content_type"), args.actions "actions"⟩⟩,
   ⟨"html", ["html"], ["assets", "layout", "actions"], fun args =>
     ⟨.html (args.file "html") (args.files "assets") (args.value "layout"), args.actions "actions"⟩⟩,
   ⟨"new-page", [], ["page_count", "layout", "actions"], fun args =>
     ⟨.blank (args.valueOr "page_count" (.int 1)) (args.value "layout"), args.actions "actions"⟩⟩,
   ⟨"document", ["document_id"], ["layer", "pages", "password", "actions"], fun args =>
     ⟨.stored (args.value "document_id") (args.value "layer") (args.range? "pages")
       (args.value "password"), args.actions "actions"⟩⟩,
   ⟨"other", [], ["value"], fun args => ⟨.unsupported (args.value "value"), []⟩⟩]

/-- Makes the part with a name. -/
def call (name : Text) (args : Arguments) : Except Fault Part := 
  NamedCall.make calls (.notOffered "parts" name) name args

end Part

end DocBuild
