import DocBuild.Job

/-!
# Stages

A stage is a view of a job that offers only the operations that make sense at that point: parts first, then
actions and an output, then the run. An operation leads to the stage after it; all stages of a job share it.
-/

namespace DocBuild

/-- The operations on a job. -/
inductive Operation where
  | addPart
  | addFilePart
  | addHtmlPart
  | addNewPage
  | addDocumentPart
  | output
  | outputPdf
  | outputPdfa
  | outputPdfua
  | outputImage
  | outputOffice
  | outputJson
  | outputHtml
  | outputMarkdown
  | compile
  | applyActions
  | applyAction
  | execute
  | dryRun
deriving DecidableEq

namespace Operation

/-- The name of an operation. -/
def name : Operation → Text
  | addPart => "add_part"
  | addFilePart => "add_file_part"
  | addHtmlPart => "add_html_part"
  | addNewPage => "add_new_page"
  | addDocumentPart => "add_document_part"
  | output => "output"
  | outputPdf => "output_pdf"
  | outputPdfa => "output_pdfa"
  | outputPdfua => "output_pdfua"
  | outputImage => "output_image"
  | outputOffice => "output_office"
  | outputJson => "output_json"
  | outputHtml => "output_html"
  | outputMarkdown => "output_markdown"
  | compile => "compile"
  | applyActions => "apply_actions"
  | applyAction => "apply_action"
  | execute => "execute"
  | dryRun => "dry_run"

/-- All operations. -/
def all : List Operation :=
  [addPart, addFilePart, addHtmlPart, addNewPage, addDocumentPart, output, outputPdf, outputPdfa,
   outputPdfua, outputImage, outputOffice, outputJson, outputHtml, outputMarkdown, compile,
   applyActions, applyAction, execute, dryRun]

/-- The operation with a name. -/
def ofName? (t : Text) : Option Operation := all.find? (·.name = t)

/-- Whether an operation adds a part. -/
def addsPart : Operation → Bool
  | addPart | addFilePart | addHtmlPart | addNewPage | addDocumentPart => true
  | _ => false

/-- Whether an operation chooses the output. -/
def choosesOutput : Operation → Bool
  | output | outputPdf | outputPdfa | outputPdfua | outputImage | outputOffice | outputJson
  | outputHtml | outputMarkdown => true
  | _ => false

end Operation

/-- The stages of a job. -/
inductive Stage where
  | empty
  | withParts
  | withOutput
deriving DecidableEq

namespace Stage

/-- The name of a stage. -/
def name : Stage → Text
  | empty => "WorkflowInitialStage"
  | withParts => "WorkflowWithPartsStage"
  | withOutput => "WorkflowWithOutputStage"

/-- Whether a stage offers an operation. -/
def offers (stage : Stage) (operation : Operation) : Bool :=
  match stage with
  | empty => operation.addsPart
  | withParts =>
    operation.addsPart || operation.choosesOutput || operation = .compile ||
      operation = .applyActions || operation = .applyAction
  | withOutput => operation.choosesOutput || operation = .execute || operation = .dryRun

/-- Asks for an operation of a stage by name. -/
def operation (stage : Stage) (name : Text) : Except Fault Operation :=
  match Operation.ofName? name with
  | some operation =>
    if stage.offers operation then .ok operation else .error (.notOffered stage.name name)
  | none => .error (.notOffered stage.name name)

end Stage

/-- The stage to which an operation leads, if it leads to one. -/
def Operation.next? (operation : Operation) : Option Stage :=
  if operation.addsPart || operation = .applyActions || operation = .applyAction then some .withParts
  else if operation.choosesOutput then some .withOutput
  else none

namespace Job

/-- The name of a job. -/
def name : Text := "WorkflowBuilder"

end Job

end DocBuild
