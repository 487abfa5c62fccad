import DocBuild.Json.Printer
import DocBuild.Payload
import DocBuild.Service.Key
import DocBuild.Service.Refusal

/-!
# Requests over HTTP

A request is sent to the service with the key in its authorization header. With files it is a form whose
fields are the data; without files the data are a JSON body. However sending ends, the streams of the files
are closed afterwards. A request that gets no answer is an error of the network.
-/

namespace DocBuild

/-- The way to the service over HTTP. -/
structure HttpTransport where
  key : ApiKey
  baseUrl : Json
  timeout : Json
  connection : Connection

namespace HttpTransport

/-- The address of the service unless another one is given. -/
def defaultBaseUrl : Text := "https://api.nutrient.io"

/-- The timeout in seconds unless another one is given. -/
def defaultTimeout : Json := .float 60.0

/-- The name by which the client introduces itself. -/
def userAgent : Text := "docassembly-python"

/-- The text that a value has to be for an operation on texts. -/
def textFor (operation : Text) : Json → Except ForeignError Text
  | .str t => .ok t
  | value => .error (.notOffered value.kindName operation)

/-- The address of an endpoint. -/
def address (t : HttpTransport) (endpoint : Json) : Except ForeignError Text := do
  let base ← textFor "rstrip" t.baseUrl
  let endpoint ← textFor "lstrip" endpoint
  return Text.dropTrailing FilePath.slash base ++ [FilePath.slash] ++
    Text.dropLeading FilePath.slash endpoint

/-- The headers of a request with a key. -/
def headers (key : Text) : Headers :=
  [("Authorization", "Bearer " ++ key), ("User-Agent", userAgent)]

/-- The form field that a member of the data is; null is none. -/
def field? (m : Text × Json) : Option (Text × Text) :=
  match m.2 with
  | .null => none
  | .str t => some (m.1, t)
  | value => some (m.1, value.compact)

/-- The files as they go into a form. -/
def attachments : List (Text × Payload) → Run (List (Text × Attachment))
  | [] => pure []
  | (key, payload) :: rest => do
    let data ← payload.peek
    return (key, payload.attachment data) :: (← attachments rest)

/-- The members of data that go into a form. Data that do not count as given have none. -/
def formMembers (data : Json) : Except ForeignError Members :=
  match data with
  | .obj members => .ok members
  | data => if data.isGiven then .error (.notOffered data.kindName "items") else .ok []

/-- The body of a request. -/
def body (request : Request Payload) : Run RequestBody :=
  match request.attached, request.data with
  | [], .null => pure .empty
  | [], data => pure (.json data)
  | files, data => do
    let members ← Run.ofExcept ((formMembers data).mapError .foreign)
    return .form (← attachments files) (members.filterMap field?)

/-- Sends a request and gives the answer. -/
def exchange (t : HttpTransport) (request : Request Payload) : Run HttpResponse := do
  let key ← Run.ofExcept (t.key.resolve.mapError .client)
  let url ← Run.ofExcept ((t.address request.endpoint).mapError .foreign)
  Run.log .debug ("Sending " ++ request.method.display ++ " " ++ request.endpoint.display) []
  let message : HttpRequest := {
    method := request.method
    url
    headers := headers key
    body := ← body request
    timeout := if request.timeout.isNull then t.timeout else request.timeout
    connection := t.connection }
  let earlier := (← get).sent.filterMap Sent.request?
  Run.record (.request message)
  Run.ofExcept ((← Run.surroundings).service earlier message)

/-- A request without an answer is an error of the network; other faults are kept. -/
def networkFault (request : Request Payload) : Fault → Fault
  | .foreign ⟨.request trouble, text⟩ =>
    .client <| ClientError.ofKind .network
      (if trouble.isTimeout then "Request timed out" else "Network request failed")
      (some [("endpoint", request.endpoint), ("method", request.method),
        ("message", .str text)])
      none (some (.ofForeign (.request trouble) text))
  | fault => fault

/-- Sends a request, makes a missing answer an error of the network, and closes the files. -/
def deliver (t : HttpTransport) (request : Request Payload) : Run HttpResponse :=
  Run.andFinally
    (do
      let outcome ← Run.attempt (t.exchange request)
      Run.ofExcept (outcome.mapError (networkFault request)))
    (Payload.closeAll (request.attached.map Prod.snd))

/-- The error of an answer that was to be JSON and is not. One that nests too deep is a foreign error. -/
def badJson (request : Request Payload) (response : HttpResponse) (e : Json.OctetsError) : Fault :=
  let cause := e.toForeign
  if cause.kind = .recursion then .foreign cause
  else
    .client <| ClientError.ofKind .service "Invalid JSON response"
      (some [("endpoint", request.endpoint), ("error", .str cause.text)])
      (some response.status) (some (.foreign cause))

/-- Reads the body of an answer in the form that was asked for. -/
def decode (request : Request Payload) (response : HttpResponse) : Except Fault Content :=
  match request.format with
  | .bytes => .ok (.bytes response.body)
  | .json => (response.json.map .value).mapError (badJson request response)
  | .text => response.text.map fun t => .value (.str t)

/-- Sends a request and reads the answer. -/
def send (t : HttpTransport) (request : Request Payload) : Run Answer := do
  let response ← t.deliver request
  Run.log .debug
    (request.method.display ++ " " ++ request.endpoint.display ++ " -> HTTP " ++ Text.ofInt response.status) []
  if 400 ≤ response.status then throw (.client (← Service.refusal request response))
  let content ← Run.ofExcept (decode request response)
  return ⟨content, response.status, response.headers⟩

end HttpTransport

end DocBuild
