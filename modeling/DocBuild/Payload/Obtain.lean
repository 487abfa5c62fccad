import DocBuild.Payload

/-!
# Obtaining files

Every file input that is one becomes a payload with a name of its own: the last name of the path or the
address, the name that the caller gave, or a name that says what the input was. A remote file is fetched
completely; a local one is only opened. Inputs that may be obtained at the same time are all attempted,
in the order of the schedule; if some fail, those obtained are closed again and the failure of the first
in the caller's order is reported.
-/

namespace DocBuild.Payload

/-- The name of octets that a caller gave without a name. -/
def bufferName : Text := "buffer"

/-- The name of mutable octets that a caller gave without a name. -/
def dataName : Text := "data.bin"

/-- The name of a fetched file whose address has none. -/
def downloadName : Text := "download"

/-- The name of a stream that bears none. -/
def streamName : Text := "file"

/-- The given name, or another one if it does not count as given. -/
def nameOr (other : Text) (name : Json) : Json := if name.isGiven then name else .str other

/-- The name of a stream that bears a value as its name. -/
def nameOfStream : Option Json → Text
  | some (.str []) => streamName
  | some (.str name) => (FilePath.ofText name).name
  | _ => streamName

/-- The path that a value is. -/
def pathOf : Json → Except Fault FilePath
  | .str t => .ok (.ofText t)
  | value =>
    .error (.ofForeign .type ("expected str, bytes or os.PathLike object, not " ++ value.kindName))

/-- The fault of a file that is not there. -/
def missing (path : FilePath) : Fault :=
  .validation ("File not found: " ++ path.toText) (some [("file_path", .str path.toText)])

/-- The fault of a file that cannot be opened. -/
def unopened (path : FilePath) (reason : Text) : Fault :=
  .client <| ClientError.ofKind .validation ("Failed to read file: " ++ path.toText)
    (some [("file_path", .str path.toText), ("error", .str reason)]) none
    (some (.ofForeign .os reason))

/-- Opens a local file. With a `lock` the file cannot be opened even if it is there. -/
def openFile (path : FilePath) (lock : Option Text) : Run Payload := do
  match (← Run.surroundings).entry path, lock with
  | .noFile, _ => throw (missing path)
  | .unreachable reason, _ => throw (.ofForeign .os reason)
  | .locked reason, _ | .file _, some reason => throw (unopened path reason)
  | .file content, none =>
    let id ← Run.openStream { content, origin := .client }
    return { source := .stream id, filename := .str path.name }

/-- The fault of a fetch without an answer. -/
def unanswered (address : Json) (cause : ForeignError) : Fault :=
  .client <| ClientError.ofKind .validation ("Failed to fetch URL: " ++ address.display)
    (some [("url", address), ("error", .str cause.text)]) none (some (.foreign cause))

/-- The fault of a fetch that was refused. -/
def refused (address : Json) (response : HttpResponse) : Fault :=
  .validation
    ("Failed to fetch URL: " ++ Text.ofInt response.status ++ " " ++ response.reason)
    (some [("url", address), ("status", .int response.status),
      ("status_text", .str response.reason)])

/-- Sends a fetch. Only the failures of an HTTP exchange are the fault of the caller. -/
def exchange (connection : Connection) (address : Json) : Run HttpResponse := do
  Run.record (.fetch ⟨address, connection⟩)
  match (← Run.surroundings).web address with
  | .ok response => return response
  | .error (.foreign cause) =>
    throw (if cause.kind.isHttp then unanswered address cause else .foreign cause)
  | .error (.client e) => throw (.client e)

/-- The file name in an address. -/
def nameIn (address : Json) : Except Fault (Option Text) := do
  (fileNameOfUrl (← FileInput.addressOf address)).mapError fun e => .ofForeign .value e.message

/-- Fetches a remote file. -/
def fetch (connection : Connection) (address : Json) : Run Payload := do
  Run.log .debug ("Fetching remote file " ++ address.display) []
  let response ← exchange connection address
  if !response.isSuccess then throw (refused address response)
  Run.log .debug
    ("Fetched " ++ Text.ofNat response.body.length ++ " bytes from " ++ address.display) []
  let name ← Run.ofExcept (nameIn address)
  return {
    source := .owned response.body
    filename := nameOr downloadName (Json.ofText? name)
    contentType := Json.ofText? (response.header? "content-type") }

/-- Obtains a file. -/
def obtain (connection : Connection) (input : FileInput) : Run Payload :=
  match input with
  | .text value => do
    let remote ← Run.ofExcept <| (isUrl value).mapError fun e => .ofForeign .value e.message
    if remote then fetch connection (.str value) else openFile (.ofText value) none
  | .path path => openFile path none
  | .locked path reason => openFile path (some reason)
  | .bytes data => pure { source := .owned data, filename := .str bufferName }
  | .byteArray data | .byteView data => pure { source := .owned data, filename := .str dataName }
  | .localFile path => do openFile (← Run.ofExcept (pathOf path)) none
  | .buffer data filename contentType =>
    pure { source := .owned data, filename := nameOr bufferName filename, contentType }
  | .mutableBuffer data filename contentType =>
    pure { source := .owned data, filename := nameOr dataName filename, contentType }
  | .remote address => fetch connection address
  | .stream id name => pure { source := .stream id, filename := .str (nameOfStream name) }
  | .inert | .plain _ => throw input.invalid

/-- The outcomes of obtaining inputs by their places, in the order in which they are attempted. -/
def attemptInOrder (connection : Connection) (inputs : List FileInput) :
    List Nat → Run (List (Nat × Except Fault Payload))
  | [] => pure []
  | place :: rest => do
    match inputs[place]? with
    | none => attemptInOrder connection inputs rest
    | some input =>
      let outcome ← Run.attempt (obtain connection input)
      return (place, outcome) :: (← attemptInOrder connection inputs rest)

/-- The payloads among outcomes. -/
def obtained (outcomes : List (Except Fault Payload)) : List Payload :=
  outcomes.filterMap fun
    | .ok p => some p
    | .error _ => none

/-- The first failure among outcomes. -/
def firstFailure? (outcomes : List (Except Fault Payload)) : Option Fault :=
  outcomes.findSome? fun
    | .ok _ => none
    | .error e => some e

/-- Obtains all inputs. -/
def obtainAll (connection : Connection) (inputs : List FileInput) : Run (List Payload) := do
  let order := (← Run.surroundings).schedule.inputs inputs.length
  let attempts ← attemptInOrder connection inputs order
  let outcomes := (List.range inputs.length).filterMap (attempts.lookup ·)
  match firstFailure? outcomes with
  | none => return obtained outcomes
  | some fault =>
    closeAll (obtained outcomes)
    throw fault

end DocBuild.Payload
