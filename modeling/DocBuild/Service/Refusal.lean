import DocBuild.Session

/-!
# Refusals

An answer whose status is 400 or more is an error. Its kind follows from the status: 401 and 403 are about
the key, all others below 500 about what the caller gave, the rest about the service. The error keeps the
body of the answer, and takes its message from there if it can.
-/

namespace DocBuild.Service

/-- The kind of the error that a status means. -/
def kindOfStatus (status : Int) : ErrorKind :=
  if status = 401 ∨ status = 403 then .authentication
  else if 400 ≤ status ∧ status < 500 then .validation
  else .service

/-- The members of a body that may hold the message, the first one first. -/
def messageNames : List Text := ["message", "error", "detail", "error_description"]

/-- The text that a member holds, unless it is empty. -/
def messageAt? (body : Members) (name : Text) : Option Text :=
  match body.get? name with
  | some (.str (c :: rest)) => some (c :: rest)
  | _ => none

/-- The message that a body holds. -/
def messageIn? : Json → Option Text
  | .obj members => messageNames.findSome? (messageAt? members)
  | _ => none

/-- The body of a refusal: as JSON if it is JSON, and as text otherwise. -/
def bodyOf (response : HttpResponse) : Except Fault Json :=
  match response.json with
  | .ok body => .ok body
  | .error e =>
    if e.toForeign.kind = .recursion then .error (.foreign e.toForeign)
    else response.text.map .str

/-- The details of a refusal: the members of the body, or the body itself, and what was asked for. -/
def refusalDetails {File : Type} (request : Request File) (body : Json) : Members :=
  let details : Members := match body with
    | .obj members => members
    | body => .single "response" body
  (details.setDefault "endpoint" request.endpoint).setDefault "method" request.method

/-- The message of a refusal. -/
def refusalMessage (response : HttpResponse) (body : Json) : Text :=
  (messageIn? body).getD ("HTTP " ++ Text.ofInt response.status ++ ": " ++ response.reason)

/-- The error that a refusal means; it is logged. -/
def refusal {File : Type} (request : Request File) (response : HttpResponse) : Run ClientError := do
  let body ← Run.ofExcept (bodyOf response)
  let message := refusalMessage response body
  Run.log .warning
    (request.method.display ++ " " ++ request.endpoint.display ++ " failed with HTTP " ++
      Text.ofInt response.status ++ ": " ++ message) []
  return .ofKind (kindOfStatus response.status) message (some (refusalDetails request body))
    (some response.status) none

end DocBuild.Service
