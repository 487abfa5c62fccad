import DocBuild.Job

/-!
# Clients

A client holds the way to the service. Every operation on it makes a job of its own, runs it and gives the
product, or fails with the error of the step that failed. What the caller gave is checked before anything
is sent.
-/

namespace DocBuild

/-- A client: the way to the service, and the connection that fetches remote files. -/
structure Client where
  transport : Transport
  connection : Connection
  baseUrl : Json

namespace Client

/-- A client with a key. Without a transport of its own it reaches the service over HTTP. -/
def make (key : ApiKey) (baseUrl timeout : Json) (transport : Option Transport)
    (connection : Connection) : Except Fault Client := do
  key.check
  let http : HttpTransport := { key, baseUrl, timeout, connection }
  return ⟨transport.getD http.transport, connection, baseUrl⟩

/-- A new job. -/
def newJob (c : Client) (timeout : Json) : Job :=
  { transport := c.transport, connection := c.connection, timeout }

/-- Adds parts one after the other. -/
def addParts : List Part → JobStep Unit
  | [] => pure ()
  | part :: rest => do
    Job.addPart part
    addParts rest

/-- The execution of a new job with parts, actions on the document and an output. -/
def execution (c : Client) (parts : List Part) (actions : List Action) (output : Output) :
    Except Fault Execution :=
  let steps : JobStep Execution := do
    addParts parts
    Job.applyActions actions
    Job.setOutput (some output)
    Job.execute .null none
  ((c.newJob .null).perform steps).1

/-- Runs a new job with parts, actions on the document and an output. -/
def build (c : Client) (parts : List Part) (actions : List Action) (output : Output) :
    Run Product := do
  let execution ← Run.ofExcept (c.execution parts actions output)
  Run.ofExcept (← execution.run).toExcept

/-- The fault of a product that is no binary document. -/
def notBinary (kind : Text) : Fault :=
  .client <| ClientError.general "Expected a binary document output" "WORKFLOW_ERROR"
    (some [("output_type", .str kind)]) none none

/-- The binary document that a product is. -/
def expectBinary : Option Product → Except Fault Document
  | some (.document document) => .ok document
  | some product => .error (notBinary product.kindName)
  | none => .error (notBinary Json.null.kindName)

/-- Runs a new job that gives a PDF. -/
def buildPdf (c : Client) (parts : List Part) (actions : List Action) : Run Document := do
  let product ← c.build parts actions (Output.pdf {})
  Run.ofExcept (expectBinary (some product))

/-- Gives what the service says about the account that the key belongs to. -/
def accountInfo (c : Client) : Run Content := do
  let answer ← c.transport.send
    { endpoint := .str "/account/info", method := .str "GET", format := .json }
  return answer.content

/-- Converts a file to a format. -/
def convert (c : Client) (file : FileInput) (format : Json) : Run Product := do
  let output ← Run.ofExcept ((Output.ofTargetFormat format).mapError OutputError.toFault)
  c.build [.ofFile file] [] output

/-- Applies an action to a file. -/
def applyAction (c : Client) (file : FileInput) (action : Except ActionError Action) :
    Run Document := do
  let action ← Run.ofExcept (action.mapError ActionError.toFault)
  c.buildPdf [.ofFile file] [action]

/-- Recognises the text of a file. -/
def ocr (c : Client) (file : FileInput) (language : Json) : Run Document :=
  c.applyAction file (.ok (Action.ocr language))

/-- Stamps a text on every page of a file. -/
def watermarkText (c : Client) (file : FileInput) (text : Json) (placement : Placement) (font : Font) :
    Run Document :=
  c.applyAction file (Action.watermarkText text placement font)

/-- Stamps an image on every page of a file. -/
def watermarkImage (c : Client) (file : FileInput) (image : Option FileInput) (placement : Placement) :
    Run Document :=
  c.applyAction file (.ok (Action.watermarkImage image placement))

/-- Burns the annotations of a file into its pages. -/
def flatten (c : Client) (file : FileInput) (annotationIds : Json) : Run Document :=
  c.applyAction file (.ok (Action.flatten annotationIds))

/-- Imports annotations in JSON into a file. -/
def applyInstantJson (c : Client) (file : FileInput) (annotations : Option FileInput) : Run Document :=
  c.applyAction file (.ok (Action.applyInstantJson annotations))

/-- Imports annotations in XFDF into a file. -/
def applyXfdf (c : Client) (file : FileInput) (annotations : Option FileInput)
    (ignorePageRotation richTextEnabled : Json) : Run Document :=
  c.applyAction file (.ok (Action.applyXfdf annotations ignorePageRotation richTextEnabled))

/-- Marks every occurrence of a text in a file. -/
def createRedactionsText (c : Client) (file : FileInput) (text : Json) (scope : RedactionScope) :
    Run Document :=
  c.applyAction file (.ok (Action.createRedactionsText text scope))

/-- Marks every match of a regular expression in a file. -/
def createRedactionsRegex (c : Client) (file : FileInput) (regex : Json) (scope : RedactionScope) :
    Run Document :=
  c.applyAction file (.ok (Action.createRedactionsRegex regex scope))

/-- Marks the matches of a known pattern in a file. -/
def createRedactionsPreset (c : Client) (file : FileInput) (preset : Json) (scope : RedactionScope) :
    Run Document :=
  c.applyAction file (.ok (Action.createRedactionsPreset preset scope))

/-- Applies the redactions that are marked in a file. -/
def applyRedactions (c : Client) (file : FileInput) : Run Document :=
  c.applyAction file (.ok Action.applyRedactions)

/-- The fault of a product that is no extracted content. -/
def notExtracted : Fault :=
  .client (ClientError.general "Unexpected output type for text extraction" [] none none none)

/-- Extracts the plain text of a file. -/
def extractText (c : Client) (file : FileInput) : Run Content := do
  match ← c.build [.ofFile file] [] (Output.jsonContent { plainText := .bool true }) with
  | .extraction content => return content
  | _ => throw notExtracted

/-- Puts files one after the other and converts the result to a format. -/
def merge (c : Client) (files : List FileInput) (format : Json) : Run Product := do
  if files.length < 2 then
    throw (.validation "At least 2 files are required for merge operation" none)
  let output ← Run.ofExcept ((Output.ofTargetFormat format).mapError OutputError.toFault)
  c.build (files.map .ofFile) [] output

/-- The levels of compression with what they ask for. A higher level gives up more image quality. -/
def compressionLevels : List (Text × Members) :=
  [("low", .single "imageOptimizationQuality" (.int 4)),
   ("medium", .single "imageOptimizationQuality" (.int 3)),
   ("high", .single "imageOptimizationQuality" (.int 2)),
   ("maximum",
     .single "imageOptimizationQuality" (.int 1) ++ .single "mrcCompression" (.bool true))]

/-- The fault of a level of compression that there is not. -/
def noSuchLevel (level : Json) : Fault :=
  .validation
    ("Unsupported compression level '" ++ level.display ++ "'. Choose from: " ++
      Json.shown (.arr (compressionLevels.map fun l => .str l.1)))
    (some [("level", level)])

/-- What a level of compression asks for. Lists and mappings cannot even be looked up. -/
def compressionOf (level : Json) : Except Fault Members :=
  match level with
  | .arr _ | .obj _ | .table _ => .error (.foreign (.notKey level.kindName))
  | level =>
    match compressionLevels.find? (fun known => level.isText known.1) with
    | some (_, optimize) => .ok optimize
    | none => .error (noSuchLevel level)

/-- Makes the images of a file smaller. -/
def compress (c : Client) (file : FileInput) (level : Json) : Run Document := do
  let optimize ← Run.ofExcept (compressionOf level)
  let product ← c.build [.ofFile file] [] (Output.pdf { optimize := .obj optimize })
  Run.ofExcept (expectBinary (some product))

end Client

end DocBuild
