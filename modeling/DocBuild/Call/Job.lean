import DocBuild.Call.Factories
import DocBuild.Job.Stage

/-!
# Jobs by name

The operations of stages and of jobs with the names of their arguments. A call first looks for the
operation, then makes what the operation needs, and only then looks at the job.
-/

namespace DocBuild

/-- What a call on a job gives. -/
inductive JobReply where
  | done
  | stage (stage : Stage)
  | build (build : Build)
  | executed (outcome : Outcome Product)
  | analysed (outcome : Outcome Content)

/-- A call on a job: what it asks, and the stage that it gives if it is asked of a stage and nothing else comes
of it. -/
structure JobCall where
  demand : Demand
  next? : Option Stage := none

namespace JobCall

/-- The reply to a call, once the run that it began has come to its outcome. -/
def reply (call : JobCall) : Begun → Run JobReply
  | .done =>
    match call.next? with
    | some stage => pure (.stage stage)
    | none => pure .done
  | .build build => pure (.build build)
  | .execution execution => do return .executed (← execution.run)
  | .analysis analysis => do return .analysed (← analysis.run)

/-- What a call does to a job if nothing else goes on before it has its reply. -/
def on (call : JobCall) (job : Job) : Run (Except Fault JobReply × Job) := do
  let (outcome, job) := job.perform call.demand.begin
  match outcome with
  | .error fault => return (.error fault, job)
  | .ok begun => return (.ok (← call.reply begun), job)

instance : CoeFun JobCall fun _ => Job → Run (Except Fault JobReply × Job) := ⟨on⟩

end JobCall

namespace Demand

/-- The arguments of an execution. -/
def executeNames : List Text := ["timeout", "on_progress"]

/-- Asks for the execution of a job. -/
def ofExecute (args : Arguments) : Demand := .execute (args.value "timeout") (args.callback? "on_progress")

/-- Asks for the analysis of a job; no progress is reported. -/
def ofDryRun (args : Arguments) : Demand := .dryRun (args.value "timeout")

/-- Asks to add the part that a call makes. -/
def ofPart (part : Except Fault Part) : Except Fault Demand := part.map .addPart

/-- Asks for the output that a call makes. -/
def ofOutput (output : Except Fault Output) : Except Fault Demand := output.map fun output => .setOutput (some output)

end Demand

/-- What an operation asks of a job for arguments. -/
def Operation.demand (args : Arguments) : Operation → Except Fault Demand
  | .addPart => do
    args.expect ["part"] []
    return .addPart (args.part "part")
  | .addFilePart => Demand.ofPart (Part.call "file" args)
  | .addHtmlPart => Demand.ofPart (Part.call "html" args)
  | .addNewPage => Demand.ofPart (Part.call "new-page" args)
  | .addDocumentPart => Demand.ofPart (Part.call "document" args)
  | .output => do
    args.expect ["output"] []
    return .setOutput (args.output? "output")
  | .outputPdf => Demand.ofOutput (Output.call "pdf" args)
  | .outputPdfa => Demand.ofOutput (Output.call "pdfa" args)
  | .outputPdfua => Demand.ofOutput (Output.call "pdfua" args)
  | .outputImage => Demand.ofOutput (Output.call "image" args)
  | .outputOffice => Demand.ofOutput (Output.call "office" args)
  | .outputJson => Demand.ofOutput (Output.call "json_content" args)
  | .outputHtml => Demand.ofOutput (Output.call "html" args)
  | .outputMarkdown => Demand.ofOutput (Output.call "markdown" args)
  | .compile => do
    args.expect [] []
    return .compile
  | .applyActions => do
    args.expect ["actions"] []
    return .applyActions (args.someActions "actions")
  | .applyAction => do
    args.expect ["action"] []
    return .applyActions ((args.action "action").map fun action => [action])
  | .execute => do
    args.expect [] Demand.executeNames
    return Demand.ofExecute args
  | .dryRun => do
    args.expect [] ["timeout"]
    return Demand.ofDryRun args

/-- Calls an operation of a stage by name. -/
def Stage.call (stage : Stage) (name : Text) (args : Arguments) : Except Fault JobCall := do
  let operation ← stage.operation name
  return ⟨← operation.demand args, operation.next?⟩

/-- What can be asked of a job itself. Whether it was started is no operation. -/
def Job.calls : List (NamedCall (Except Fault Demand)) :=
  [⟨"add_part", ["part"], [], fun args => .ok (.addPart (args.part "part"))⟩,
   ⟨"apply_actions", ["actions"], [], fun args => .ok (.applyActions (args.someActions "actions"))⟩,
   ⟨"set_output", ["output"], [], fun args => .ok (.setOutput (args.output? "output"))⟩,
   ⟨"compile", [], [], fun _ => .ok .compile⟩,
   ⟨"execute", [], Demand.executeNames, fun args => .ok (Demand.ofExecute args)⟩,
   ⟨"dry_run", [], ["timeout"], fun args => .ok (Demand.ofDryRun args)⟩,
   ⟨"executed", [], [], fun _ => .error (.foreign (.notCallable "bool"))⟩]

/-- Calls an operation of a job by name. -/
def Job.call (name : Text) (args : Arguments) : Except Fault JobCall := do
  let demand ← NamedCall.make Job.calls (.notOffered Job.name name) name args
  return ⟨← demand, none⟩

end DocBuild
