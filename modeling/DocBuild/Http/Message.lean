import DocBuild.Http.ContentCoding
import DocBuild.Http.MediaType
import DocBuild.Http.Reason
import DocBuild.Json.Octets
import DocBuild.Fault

/-!
# HTTP messages

Requests to the service, fetches of remote files, and answers. An answer announces the length of its body as
it was sent unless that is empty; a compressed body is decompressed. Header names are in small letters, and
the values of repeated headers are joined. A phrase may come with the status.
-/

namespace DocBuild

/-- Headers by name. -/
abbrev Headers := List (Text × Text)

/-- The content of a file, with the name and the media type under which it travels; null is no media type. -/
structure Attachment where
  filename : Json
  contentType : Json
  content : Bytes

/-- The body of a request. -/
inductive RequestBody where
  | empty
  | json (data : Json)
  /-- Files and fields by key. -/
  | form (files : List (Text × Attachment)) (fields : List (Text × Text))

/-- The connection that a request uses: one that the caller lends, or one opened for this request. -/
inductive Connection where
  | lent
  | own
deriving DecidableEq

/-- A request to the service. -/
structure HttpRequest where
  method : Json
  url : Text
  headers : Headers
  body : RequestBody
  timeout : Json
  connection : Connection

/-- A fetch of a remote file; redirects are followed. -/
structure Fetch where
  url : Json
  connection : Connection

/-- An answer. -/
structure HttpResponse where
  status : Int
  headers : Headers
  body : Bytes
  /-- The phrase that came with the status, if one did. -/
  phrase : Option Bytes := none
deriving DecidableEq

namespace HttpResponse

/-- Adds a header; a repeated one is joined to the value before. -/
def addHeader (headers : Headers) (header : Text × Text) : Headers :=
  let name := Text.lowerAscii header.1
  match headers.lookup name with
  | none => headers ++ [(name, header.2)]
  | some old => headers.map fun h => if h.1 = name then (name, old ++ ", " ++ header.2) else h

/-- A header as it is given. Its name and its value have to be ASCII. -/
def givenHeader (header : Text × Json) : Except ForeignError (Text × Text) := do
  ForeignError.requireAscii header.1
  match header.2 with
  | .str value =>
    ForeignError.requireAscii value
    return (header.1, value)
  | value =>
    throw ⟨.type, "Header value must be str or bytes, not <class '" ++ value.kindName ++ "'>"⟩

/-- The answer with a body as it was sent; the length of the body is announced unless a header does so
already. -/
def receive (status : Int) (headers : Members) (sent : Bytes) (phrase : Option Bytes := none) :
    Except ForeignError HttpResponse := do
  let given := (← headers.mapM givenHeader).foldl addHeader []
  let name : Text := "content-length"
  let announced : Headers :=
    if sent.isEmpty || (given.lookup name).isSome then given
    else given ++ [(name, Text.ofNat sent.length)]
  let codings := (given.lookup (Text.ofString "content-encoding")).getD []
  let body ← (ContentCoding.decodeAll codings sent).mapError fun flaw => ⟨.request .decoding, flaw.message⟩
  return ⟨status, announced, body, phrase⟩

/-- The value of a header. -/
def header? (r : HttpResponse) (name : Text) : Option Text := r.headers.lookup name

/-- Whether the status says that the request succeeded. -/
def isSuccess (r : HttpResponse) : Bool := 200 ≤ r.status && r.status ≤ 299

/-- The phrase for the status: what is ASCII of the one that came with it, and the usual one if none came. -/
def reason (r : HttpResponse) : Text :=
  match r.phrase with
  | some phrase => (phrase.filter (· < 0x80)).map .ofByte
  | none => Http.reason r.status

/-- The body as text, in the character set of the media type. -/
def text (r : HttpResponse) : Except Fault Text :=
  match r.body with
  | [] => .ok []
  | body =>
    (do (← MediaType.charset (r.header? "content-type")).lenient body : Except ForeignError Text).mapError
      .foreign

/-- The body as JSON. -/
def json (r : HttpResponse) : Except Json.OctetsError Json := Json.ofOctets r.body

end HttpResponse

/-- A body that is no JSON is a foreign error. One that nests too deep is reported as such. -/
def Json.OctetsError.toForeign (e : Json.OctetsError) : ForeignError :=
  ⟨match e with
    | .encoding _ => .undecodable
    | .text _ (.misplaced ..) => .notJson
    | .text _ (.tooManyDigits _) => .value
    | .text _ (.tooDeep _) => .recursion, e.message⟩

end DocBuild
