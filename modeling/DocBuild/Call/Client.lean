import DocBuild.Call.Factories
import DocBuild.Client.Pages
import DocBuild.Job.Stage

/-!
# Client operations by name

The operations of a client with the names of their arguments.
-/

namespace DocBuild

/-- What an operation of a client gives. -/
inductive ClientReply where
  | product (product : Product)
  | documents (documents : List Document)
  | content (content : Content)
  /-- The first stage of a new job. -/
  | stage (stage : Stage)

namespace ClientReply

/-- A reply that is one document. -/
def document (d : Document) : ClientReply := product (.document d)

end ClientReply

namespace Client

/-- An operation that gives a document. -/
def giving (f : Client → Arguments → Run Document) (args : Arguments) (c : Client) : Run ClientReply :=
  ClientReply.document <$> f c args

/-- The calls on a client. The address of the service is no operation. -/
def calls : List (NamedCall (Client → Run ClientReply)) :=
  [⟨"base_url", [], [], fun _ c => throw (.foreign (.notCallable c.baseUrl.kindName))⟩,
   ⟨"workflow", [], ["timeout"], fun _ _ => return .stage .empty⟩,
   ⟨"get_account_info", [], [], fun _ c => .content <$> c.accountInfo⟩,
   ⟨"convert", ["file", "target_format"], [], fun args c =>
     .product <$> c.convert (args.file "file") (args.value "target_format")⟩,
   ⟨"ocr", ["file", "language"], [], giving fun c args =>
     c.ocr (args.file "file") (args.value "language")⟩,
   ⟨"watermark_text", ["file", "text"], Placement.names ++ Font.names, giving fun c args =>
     c.watermarkText (args.file "file") (args.value "text") (.ofArguments args) (.ofArguments args)⟩,
   ⟨"watermark_image", ["file", "image"], Placement.names, giving fun c args =>
     c.watermarkImage (args.file "file") (args.file? "image") (.ofArguments args)⟩,
   ⟨"flatten", ["file"], ["annotation_ids"], giving fun c args =>
     c.flatten (args.file "file") (args.value "annotation_ids")⟩,
   ⟨"apply_instant_json", ["file", "instant_json"], [], giving fun c args =>
     c.applyInstantJson (args.file "file") (args.file? "instant_json")⟩,
   ⟨"apply_xfdf", ["file", "xfdf"], ["ignore_page_rotation", "rich_text_enabled"],
     giving fun c args => c.applyXfdf (args.file "file") (args.file? "xfdf")
       (args.value "ignore_page_rotation") (args.value "rich_text_enabled")⟩,
   ⟨"create_redactions_text", ["file", "text"], RedactionScope.casedNames, giving fun c args =>
     c.createRedactionsText (args.file "file") (args.value "text") (.ofArguments args)⟩,
   ⟨"create_redactions_regex", ["file", "regex"], RedactionScope.casedNames, giving fun c args =>
     c.createRedactionsRegex (args.file "file") (args.value "regex") (.ofArguments args)⟩,
   ⟨"create_redactions_preset", ["file", "preset"], RedactionScope.names, giving fun c args =>
     c.createRedactionsPreset (args.file "file") (args.value "preset") (.ofArguments args)⟩,
   ⟨"apply_redactions", ["file"], [], giving fun c args => c.applyRedactions (args.file "file")⟩,
   ⟨"extract_text", ["file"], [], fun args c => .content <$> c.extractText (args.file "file")⟩,
   ⟨"merge", ["files"], ["output_format"], fun args c =>
     do return .product (← c.merge (← Run.ofExcept (args.someFiles "files"))
       (args.valueOr "output_format" (.str "pdf")))⟩,
   ⟨"compress", ["file"], ["level"], giving fun c args =>
     c.compress (args.file "file") (args.valueOr "level" (.str "medium"))⟩,
   ⟨"rotate", ["file", "angle"], ["pages"], giving fun c args =>
     c.rotate (args.file "file") (args.value "angle") (args.range? "pages")⟩,
   ⟨"add_page", ["file"], ["count", "index"], giving fun c args =>
     c.addPage (args.file "file") (args.valueOr "count" (.int 1)) (args.value "index")⟩,
   ⟨"split", ["file", "page_ranges"], [], fun args c =>
     .documents <$> c.split (args.file "file") (args.ranges "page_ranges")⟩,
   ⟨"duplicate_pages", ["file", "page_indices"], [], giving fun c args =>
     c.duplicatePages (args.file "file") (args.value "page_indices")⟩,
   ⟨"delete_pages", ["file", "page_indices"], [], giving fun c args =>
     c.deletePages (args.file "file") (args.value "page_indices")⟩]

/-- The name of a client. -/
def name : Text := "DocumentClient"

/-- Calls an operation of a client by name. -/
def call (c : Client) (operation : Text) (args : Arguments) : Run ClientReply := do
  let meaning ← Run.ofExcept (NamedCall.make calls (.notOffered name operation) operation args)
  meaning c

end Client

end DocBuild
