import DocBuild.Build.Draft
import DocBuild.Payload.Obtain
import DocBuild.Product
import DocBuild.Service.Transport

/-!
# Executions

A started job runs to an outcome. It goes through three steps, each of which is reported as it begins: the
files are obtained, the build is sent, and the answer becomes the product. Each step is one turn, and
between the turns other work may go on. Whatever fails is an outcome too: the failure of the step that was
reported last, as one of the client's own errors.
-/

namespace DocBuild

/-- The failure of a step. -/
structure StepFailure where
  step : Nat
  error : ClientError

/-- What a run has come to. -/
structure Outcome (α : Type) where
  succeeded : Bool := false
  result : Option α := none
  failures : List StepFailure := []

namespace Outcome

/-- The outcome of a run that succeeded. -/
def success {α : Type} (result : α) : Outcome α := { succeeded := true, result := some result }

/-- The outcome of a run that failed. -/
def failure {α : Type} (step : Nat) (error : ClientError) : Outcome α := { failures := [⟨step, error⟩] }

/-- The error of an outcome without a result. -/
def firstError {α : Type} (outcome : Outcome α) : ClientError :=
  match outcome.failures with
  | failure :: _ => failure.error
  | [] => .general "Workflow completed without output" "WORKFLOW_ERROR" none none none

/-- The result of an outcome, or its error. -/
def toExcept {α : Type} (outcome : Outcome α) : Except Fault α :=
  match outcome.succeeded, outcome.result with
  | true, some result => .ok result
  | _, _ => .error (.client outcome.firstError)

end Outcome

/-- A caller's function that is told the number of each step that begins; it may fail. The number of all steps,
which it is told as well, is the same for every execution. -/
abbrev ProgressCallback := Nat → Except Fault Unit

/-- A started job: what it sends, and how. -/
structure Execution where
  transport : Transport
  connection : Connection
  build : Build
  output : Output
  /-- The number of parts, for the log. -/
  parts : Nat
  timeout : Json
  callback : Option ProgressCallback

/-- How far an execution has come. -/
inductive Phase where
  | started
  | prepared (files : List (Text × Payload))
  | answered (content : Content)
  | finished (outcome : Outcome Product)

/-- The outcome of a finished execution. -/
def Phase.outcome : Phase → Outcome Product
  | finished outcome => outcome
  | _ => {}

namespace Execution

/-- Where builds are sent. -/
def endpoint : Text := "/build"

/-- The failure of a step. -/
def fail (step : Nat) (fault : Fault) : Run Phase := do
  let message : Text := "Workflow failed at step " ++ Text.ofNat step
  Run.log .error (message ++ ": " ++ fault.text) []
  return .finished (.failure step (fault.wrap message))

/-- The report that a step begins. -/
def progressReport (e : Execution) (step : Nat) : ProgressReport where
  step
  total := executionTurns
  reply := e.callback.map fun callback => callback step

/-- Reports that a step begins. It fails if the caller is told and fails. -/
def report (e : Execution) (step : Nat) : Run Unit := do
  Run.report (e.progressReport step)
  Run.ofExcept ((e.progressReport step).reply.getD (.ok ()))

/-- One turn: reports a step and does it. A report that fails is a failure of the step before. -/
def stretch (e : Execution) (step : Nat) (work : Run Phase) : Run Phase := do
  match ← Run.attempt (e.report step) with
  | .error fault => fail (step - 1) fault
  | .ok _ =>
    match ← Run.attempt work with
    | .error fault => fail step fault
    | .ok phase => return phase

/-- Obtains the files. -/
def prepare (e : Execution) : Run (List (Text × Payload)) := do
  let payloads ← Payload.obtainAll e.connection (e.build.files.map Prod.snd)
  return (e.build.files.map Prod.fst).zip payloads

/-- The request that sends the build. -/
def request (e : Execution) (files : List (Text × Payload)) : Request Payload where
  endpoint := .str endpoint
  data := .obj (Members.single "instructions" e.build.tree)
  files := some files
  format := e.output.answerFormat
  timeout := e.timeout

/-- Logs what is about to be built. -/
def announce (e : Execution) (files : Nat) : Run Unit :=
  Run.log .info
    ("Building " ++ Text.ofNat e.parts ++ " part(s) with " ++ Text.ofNat files ++ " file(s) into " ++
      e.output.type.name)
    [("parts", .int e.parts), ("files", .int files), ("output", .str e.output.type.name)]

/-- Sends the build. -/
def dispatch (e : Execution) (files : List (Text × Payload)) : Run Content := do
  e.announce files.length
  return (← e.transport.send (e.request files)).content

/-- The product that the answer is. -/
def conclude (e : Execution) (content : Content) : Run Product :=
  Run.ofExcept ((Product.ofContent e.output content).mapError .foreign)

/-- One turn of an execution. -/
def turn (e : Execution) : Phase → Run Phase
  | .started => e.stretch 1 (.prepared <$> e.prepare)
  | .prepared files => e.stretch 2 (.answered <$> e.dispatch files)
  | .answered content => e.stretch 3 ((.finished ∘ .success) <$> e.conclude content)
  | .finished outcome => pure (.finished outcome)

/-- So many turns of an execution. -/
def advance (e : Execution) : Nat → Phase → Run Phase
  | 0, phase => pure phase
  | n + 1, phase => do e.advance n (← e.turn phase)

/-- Runs an execution without a break. -/
def run (e : Execution) : Run (Outcome Product) := do
  return (← e.advance executionTurns .started).outcome

/-- Gives the executions their turns. -/
def takeTurns (executions : List Execution) : List Nat → List Phase → Run (List Phase)
  | [], phases => pure phases
  | i :: rest, phases =>
    match executions[i]?, phases[i]? with
    | some e, some phase => do
      let phase ← e.turn phase
      takeTurns executions rest (phases.set i phase)
    | _, _ => takeTurns executions rest phases

/-- Runs executions side by side. -/
def runAll (executions : List Execution) : Run (List (Outcome Product)) := do
  let turns := (← Run.surroundings).schedule.turns executions.length
  let phases ← takeTurns executions turns (executions.map fun _ => .started)
  return phases.map Phase.outcome

end Execution

/-- A job of which only the analysis is wanted. -/
structure Analysis where
  transport : Transport
  build : Build
  timeout : Json

namespace Analysis

/-- Where builds are sent to be analysed. -/
def endpoint : Text := "/analyze_build"

/-- The request that sends the build, without files. -/
def request (a : Analysis) : Request Payload where
  endpoint := .str endpoint
  data := .obj (Members.single "instructions" a.build.tree)
  format := .json
  timeout := a.timeout

/-- Sends the build and gives what the service says about it. -/
def run (a : Analysis) : Run (Outcome Content) := do
  match ← Run.attempt (a.transport.send a.request) with
  | .ok answer => return .success answer.content
  | .error fault =>
    let message : Text := "Dry run failed"
    Run.log .error (message ++ ": " ++ fault.text) []
    return .failure 0 (fault.wrap message)

end Analysis

end DocBuild
