import DocBuild.Service.Request
import DocBuild.Log.Logger
import DocBuild.Payload.Basic
import DocBuild.FileTree

/-!
# Sessions

The state that operations share: the streams that callers have given or that were opened for files, the
messages sent so far, the requests handed to transports, the progress reported, and the log. What operations
find outside is a parameter of the run and does not change while it lasts: the files, the answers to fetches
and requests, and the order in which work goes on that may go on at the same time.

An operation that fails leaves the state as it is at that moment, so streams, messages and log of a failed
operation can still be seen.
-/

namespace DocBuild

/-- Who opened a stream. -/
inductive StreamOrigin where
  | caller
  | client
deriving DecidableEq

/-- A stream: what is left to read, the reason why it cannot be read if there is one, and whether it is
closed. -/
structure Stream where
  content : Bytes
  failure : Option Text := none
  closed : Bool := false
  origin : StreamOrigin := .caller
deriving DecidableEq

namespace Stream

/-- The fault of reading a closed stream. -/
def closedFault (origin : StreamOrigin) : Fault :=
  .ofForeign .value <|
    match origin with
    | .caller => "I/O operation on closed file."
    | .client => "read of closed file"

/-- Reads all that is left. -/
def read (s : Stream) : Except Fault (Bytes × Stream) :=
  match s.failure with
  | some reason => .error (.ofForeign .os reason)
  | none =>
    if s.closed then .error (closedFault s.origin) else .ok (s.content, { s with content := [] })

/-- The stream closed. Closing is taken not to fail, and closing twice is no fault. -/
def close (s : Stream) : Stream := { s with closed := true }

end Stream

/-- What was sent: a request to the service, a fetch of a remote file, or a request handed to a transport
that is no HTTP connection. -/
inductive Sent where
  | request (request : HttpRequest)
  | fetch (fetch : Fetch)
  | handed (request : Request HandedFile)

namespace Sent

/-- The request to the service, if it is one. -/
def request? : Sent → Option HttpRequest
  | request r => some r
  | _ => none

/-- The request that was handed over, if it is one. -/
def handed? : Sent → Option (Request HandedFile)
  | handed r => some r
  | _ => none

end Sent

/-- A report of progress: the step that begins and the number of all steps, and what came of telling the caller,
if the caller wants to be told. -/
structure ProgressReport where
  step : Nat
  total : Nat
  reply : Option (Except Fault Unit)

/-- The state that operations share. -/
structure Session where
  streams : List Stream := []
  sent : List Sent := []
  /-- The requests handed to transports, whatever these made of them. -/
  dispatched : List (Request Payload) := []
  /-- The reports of progress, those that nobody wanted to be told included. -/
  progress : List ProgressReport := []
  log : List LogRecord := []
  logger : Logger := {}

/-- The steps of which callers were told. -/
def Session.reports (session : Session) : List Nat :=
  (session.progress.filter fun r => r.reply.isSome).map ProgressReport.step

/-- The number of turns that an execution takes. -/
def executionTurns : Nat := 3

/-- The order in which work goes on that may go on at the same time. -/
structure Schedule where
  /-- The order in which `n` inputs are obtained. -/
  inputs : Nat → List Nat
  /-- Every input is obtained once. -/
  inputs_perm : ∀ n, (inputs n).Perm (List.range n)
  /-- Which of `n` executions has the next turn. -/
  turns : Nat → List Nat
  /-- Every execution has all its turns. -/
  turns_perm : ∀ n, (turns n).Perm ((List.range n).flatMap (List.replicate executionTurns))

/-- The schedule in which everything waits for what came before it. -/
def Schedule.inOrder : Schedule where
  inputs := List.range
  inputs_perm _ := .refl _
  turns n := (List.range n).flatMap (List.replicate executionTurns)
  turns_perm _ := .refl _

instance : Inhabited Schedule := ⟨.inOrder⟩

/-- What operations find outside. -/
structure Surroundings where
  /-- What is at a path. -/
  entry : FilePath → PathEntry
  /-- The answer to the fetch of an address. -/
  web : Json → Except Fault HttpResponse
  /-- The answer of the service to a request, after the given earlier ones. -/
  service : List HttpRequest → HttpRequest → Except Fault HttpResponse
  schedule : Schedule := .inOrder

/-- An operation. -/
abbrev Run (α : Type) : Type := ReaderT Surroundings (ExceptT Fault (StateM Session)) α

namespace Run

/-- Runs an operation in a session. -/
def start {α : Type} (around : Surroundings) (session : Session) (x : Run α) :
    Except Fault α × Session :=
  (x.run around).run.run session

/-- What the operation finds outside. -/
def surroundings : Run Surroundings := read

/-- The outcome of an operation as a value. -/
def attempt {α : Type} (x : Run α) : Run (Except Fault α) := fun around =>
  ExceptT.mk do
    let outcome ← (x.run around).run
    return .ok outcome

/-- The value of an outcome. -/
def ofExcept {α : Type} : Except Fault α → Run α
  | .ok a => pure a
  | .error e => throw e

/-- Does `x`, then `cleanup` whether `x` failed or not. -/
def andFinally {α : Type} (x : Run α) (cleanup : Run Unit) : Run α := do
  let outcome ← attempt x
  cleanup
  ofExcept outcome

/-- Notes what is being sent. -/
def record (message : Sent) : Run Unit :=
  modify fun s => { s with sent := s.sent ++ [message] }

/-- Logs a message if its level counts. -/
def log (level : LogLevel) (message : Text) (fields : Members) : Run Unit :=
  modify fun s =>
    if s.logger.counts level then
      { s with log := s.log ++ [⟨level, Log.redact message, fields⟩] }
    else s

/-- The stream with a number. -/
def stream (id : StreamId) : Run Stream := do
  return (← get).streams.getD id { content := [], closed := true }

/-- Gives the stream with a number another state. -/
def setStream (id : StreamId) (stream : Stream) : Run Unit :=
  modify fun s => { s with streams := s.streams.set id stream }

/-- Adds a stream and gives its number. -/
def openStream (stream : Stream) : Run StreamId := do
  let session ← get
  set { session with streams := session.streams ++ [stream] }
  return session.streams.length

/-- Reads what is left of a stream, without closing it. -/
def readStream (id : StreamId) : Run Bytes := do
  let (content, stream) ← ofExcept (← stream id).read
  setStream id stream
  return content

/-- Closes a stream. -/
def closeStream (id : StreamId) : Run Unit := do
  setStream id (← stream id).close

/-- Notes a report of progress. -/
def report (report : ProgressReport) : Run Unit :=
  modify fun s => { s with progress := s.progress ++ [report] }

end Run

end DocBuild
