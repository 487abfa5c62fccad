import DocBuild.Http.Message

/-!
# Requests and answers

What the client asks the service for, apart from the way it is sent. A request may carry files under keys
to which its data refer. The answer is read as octets, as JSON or as text. Endpoint, method, data and timeout
are passed on as they are given; null data are none, and a null timeout is left to what sends the request.
-/

namespace DocBuild

/-- The form in which an answer is wanted. -/
inductive AnswerFormat where
  | bytes
  | json
  | text
deriving DecidableEq

/-- The name of a form. -/
def AnswerFormat.name : AnswerFormat → Text
  | bytes => "bytes"
  | json => "json"
  | text => "text"

/-- A request, over the type of the files it carries. -/
structure Request (File : Type) where
  endpoint : Json
  method : Json := .str "POST"
  data : Json := .null
  files : Option (List (Text × File)) := none
  format : AnswerFormat := .bytes
  timeout : Json := .null

/-- The files of a request by key; none if it carries none. -/
def Request.attached {File : Type} (r : Request File) : List (Text × File) := r.files.getD []

/-- A file as it was handed over: whether it was still a stream, and what it held. -/
structure HandedFile where
  attachment : Attachment
  wasStream : Bool

/-- What an answer holds. -/
inductive Content where
  | bytes (data : Bytes)
  | value (value : Json)

/-- The answer to a request. -/
structure Answer where
  content : Content
  status : Int
  headers : Headers

end DocBuild
