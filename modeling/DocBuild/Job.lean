import DocBuild.Build.Draft
import DocBuild.Job.Execution

/-!
# Jobs

A job drafts one build and runs it once: either it is executed or it is analysed. From the moment it has
been started it refuses everything but to show the build. A job without parts cannot be started, and stays
as it is.
-/

namespace DocBuild

/-- A job: how it reaches the service, what it drafts, and whether it was started. -/
structure Job where
  transport : Transport
  connection : Connection
  timeout : Json := .null
  draft : Draft := {}
  executed : Bool := false

/-- A step on a job. -/
abbrev JobStep (α : Type) : Type := ExceptT Fault (StateM Job) α

namespace Job

/-- The fault of a job that was started before. -/
def usedUp : Fault :=
  .validation
    ("This workflow has already been executed. " ++
      ("Create a new workflow builder for additional operations." : Text))
    none

/-- Refuses a job that was started. -/
def ensureUnused : JobStep Unit := do
  if (← get).executed then throw usedUp

/-- Works on the draft of a job. -/
def drafting {α : Type} (x : Drafting α) : JobStep α := fun job =>
  let (outcome, draft) := x job.draft
  (outcome, { job with draft })

/-- Adds a part. -/
def addPart (part : Part) : JobStep Unit := do
  ensureUnused
  drafting (Draft.addPart part)

/-- Adds actions to the document, one after the other up to the first that is refused. -/
def addActions : List Action → JobStep Unit
  | [] => pure ()
  | action :: rest => do
    let _ ← drafting (Draft.addAction action (.str "document"))
    addActions rest

/-- Applies actions to the document. -/
def applyActions (actions : List Action) : JobStep Unit := do
  ensureUnused
  addActions actions

/-- Chooses the output; none takes back the choice. -/
def setOutput (output : Option Output) : JobStep Unit := do
  ensureUnused
  drafting (Draft.setOutput output)

/-- The build as drafted so far. -/
def compile : JobStep Build := do
  match (← get).draft.compile with
  | .ok build => return build
  | .error fault => throw fault

/-- Starts a job: what has been drafted by now is what will be sent. -/
def start : JobStep Build := do
  ensureUnused
  let build ← compile
  modify fun job => { job with executed := true }
  return build

/-- Starts the execution of a job. -/
def execute (timeout : Json) (callback : Option ProgressCallback) : JobStep Execution := do
  let build ← start
  let job ← get
  return {
    transport := job.transport
    connection := job.connection
    build
    output := job.draft.chosenOutput
    parts := job.draft.parts.length
    timeout := if timeout.isNull then job.timeout else timeout
    callback }

/-- Starts the analysis of a job. -/
def analyse (timeout : Json) : JobStep Analysis := do
  let build ← start
  let job ← get
  return { transport := job.transport, build, timeout := if timeout.isNull then job.timeout else timeout }

/-- Does a step on a job. -/
def perform {α : Type} (job : Job) (step : JobStep α) : Except Fault α × Job := step.run.run job

end Job

/-- What can be asked of a job. What a caller gives for actions is looked at only if the job was not started. -/
inductive Demand where
  | addPart (part : Part)
  | applyActions (given : Except Fault (List Action))
  | setOutput (output : Option Output)
  | compile
  | execute (timeout : Json) (callback : Option ProgressCallback)
  | dryRun (timeout : Json)

/-- What comes at once of asking a job: nothing to show, the build, or a run that has yet to take its turns. -/
inductive Begun where
  | done
  | build (build : Build)
  | execution (execution : Execution)
  | analysis (analysis : Analysis)

/-- Asks a job. -/
def Demand.begin : Demand → JobStep Begun
  | addPart part => do
    Job.addPart part
    return .done
  | applyActions given => do
    Job.ensureUnused
    match given with
    | .ok actions =>
      Job.addActions actions
      return .done
    | .error fault => throw fault
  | setOutput output => do
    Job.setOutput output
    return .done
  | compile => return .build (← Job.compile)
  | execute timeout callback => return .execution (← Job.execute timeout callback)
  | dryRun timeout => return .analysis (← Job.analyse timeout)

end DocBuild
