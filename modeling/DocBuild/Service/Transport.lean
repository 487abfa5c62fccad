import DocBuild.Service.Http

/-!
# Transports

A transport is any way to send a request and get an answer. One sends requests over HTTP; another hands
them, with all their files read, to something that answers in place of the service.
-/

namespace DocBuild

/-- A way to send requests. -/
structure Transport where
  /-- Sends a request that was handed over, and gives the answer. -/
  deliver : Request Payload → Run Answer

/-- Hands a request to a transport and waits for the answer. What was handed over is noted whatever the transport
makes of it, and it has no say in the progress that is reported. -/
def Transport.send (t : Transport) (request : Request Payload) : Run Answer := do
  let earlier ← get
  Run.andFinally (t.deliver request) <| modify fun s =>
    { s with dispatched := earlier.dispatched ++ [request], progress := earlier.progress }

/-- Requests sent over HTTP. -/
def HttpTransport.transport (t : HttpTransport) : Transport := ⟨t.send⟩

/-- What answers in place of the service, knowing the requests handed over before. -/
structure StandIn where
  answer : List (Request HandedFile) → Request HandedFile → Except Fault Answer

namespace StandIn

/-- Reads the files of a request one after the other. -/
def readAll : List (Text × Payload) → Run (List (Text × HandedFile))
  | [] => pure []
  | (key, payload) :: rest => do
    let (data, read) ← payload.read
    return (key, ⟨read.attachment data, payload.isStream⟩) :: (← readAll rest)

/-- The files of a request, read, if it carries any. -/
def readFiles : Option (List (Text × Payload)) → Run (Option (List (Text × HandedFile)))
  | none => pure none
  | some files => some <$> readAll files

/-- Hands a request over. -/
def send (s : StandIn) (request : Request Payload) : Run Answer := do
  let handed : Request HandedFile := {
    endpoint := request.endpoint
    method := request.method
    data := request.data
    files := ← readFiles request.files
    format := request.format
    timeout := request.timeout }
  let earlier := (← get).sent.filterMap Sent.handed?
  Run.record (.handed handed)
  Run.ofExcept (s.answer earlier handed)

/-- Requests handed over. -/
def transport (s : StandIn) : Transport := ⟨s.send⟩

end StandIn

end DocBuild
