import DocBuild.Fault.Foreign
import DocBuild.Json.Printer

/-!
# Faults

An operation fails with one of the client's own errors or with a foreign error, one that came out of the
surroundings unchanged. The client's errors are of five kinds and carry a code, details, the status of
the answer that caused them, and their cause. `Fault.wrap` turns any fault into a client's error.
-/

namespace DocBuild

/-- The kinds of the client's own errors. -/
inductive ErrorKind where
  | general
  | validation
  | service
  | authentication
  | network
deriving DecidableEq

namespace ErrorKind

/-- The name under which an error of a kind is reported. -/
def name : ErrorKind → Text
  | general => "ClientError"
  | validation => "ValidationError"
  | service => "APIError"
  | authentication => "AuthenticationError"
  | network => "NetworkError"

/-- The code of an error whose kind says all. -/
def code : ErrorKind → Text
  | general => "CLIENT_ERROR"
  | validation => "VALIDATION_ERROR"
  | service => "API_ERROR"
  | authentication => "AUTHENTICATION_ERROR"
  | network => "NETWORK_ERROR"

end ErrorKind

/-- One of the client's own errors, over the type of what may have caused it. A caller who makes an error may
give any value as its message, code, details and status; null details and a null status are none. -/
structure ClientErrorOver (Cause : Type) where
  kind : ErrorKind
  message : Json
  code : Json
  details : Json
  status : Json
  cause : Option Cause

/-- What an operation fails with. -/
inductive Fault where
  | client (error : ClientErrorOver Fault)
  | foreign (error : ForeignError)

/-- One of the client's own errors. -/
abbrev ClientError := ClientErrorOver Fault

namespace ClientError

/-- An error whose code is that of its kind. -/
def ofKind (kind : ErrorKind) (message : Text) (details : Option Members) (status : Option Int)
    (cause : Option Fault) : ClientError :=
  ⟨kind, .str message, .str kind.code, Json.ofMembers? details, Json.ofInt? status, cause⟩

/-- The code of a general error: the given one if it counts as given. -/
def codeOr (code : Json) : Json := if code.isGiven then code else .str ErrorKind.general.code

/-- A general error with a code of its own; an empty code counts as none. -/
def general (message code : Text) (details : Option Members) (status : Option Int)
    (cause : Option Fault) : ClientError :=
  ⟨.general, .str message, codeOr (.str code), Json.ofMembers? details, Json.ofInt? status, cause⟩

/-- An error that a caller makes. Only a general one has a code of its own. -/
def given (kind : ErrorKind) (message code details status : Json) : ClientError :=
  ⟨kind, message, if kind = .general then codeOr code else .str kind.code, details, status, none⟩

/-- An error about what the caller gave. -/
def validation (message : Text) (details : Option Members) : ClientError :=
  ofKind .validation message details none none

/-- The words for an error: its kind and message, its code unless it is the general one, and its status
if it counts as given. -/
def text (e : ClientError) : Text :=
  let code : Text := if e.code.isText ErrorKind.general.code then [] else " (" ++ e.code.display ++ ")"
  let status : Text := if e.status.isGiven then " [HTTP " ++ e.status.display ++ "]" else []
  e.kind.name ++ ": " ++ e.message.display ++ code ++ status

/-- The error as a record. -/
def toMembers (e : ClientError) : Members :=
  [("name", .str e.kind.name), ("message", e.message), ("code", e.code), ("details", e.details),
   ("status_code", e.status)]

end ClientError

namespace Fault

/-- The name under which a fault is reported. -/
def name : Fault → Text
  | client e => e.kind.name
  | foreign e => e.kind.name

/-- The words for a fault. -/
def text : Fault → Text
  | client e => ClientError.text e
  | foreign e => e.text

/-- An error about what the caller gave. -/
def validation (message : Text) (details : Option Members) : Fault :=
  client (ClientError.validation message details)

/-- A foreign error with the given words. -/
def ofForeign (kind : ForeignKind) (text : Text) : Fault := foreign ⟨kind, text⟩

/-- The fault of asking something for an operation that it does not offer. -/
def notOffered (owner operation : Text) : Fault := foreign (.notOffered owner operation)

/-- Whether the fault is about what the caller gave. -/
def isValidation : Fault → Bool
  | client e => e.kind = .validation
  | foreign _ => false

/-- A fault as a client's error: one of the client's own is kept, a foreign one becomes the cause of an
error with the given message. -/
def wrap (message : Text) : Fault → ClientError
  | client e => e
  | foreign e =>
    ClientError.general message "WRAPPED_ERROR"
      (some [("original_error", .str e.kind.name), ("error", .str e.text)]) none (some (foreign e))

end Fault

end DocBuild
