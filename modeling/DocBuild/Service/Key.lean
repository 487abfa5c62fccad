import DocBuild.Fault

/-!
# API keys

A key is given as a text or as an asynchronous function that yields one. Functions are known here by their
outcome. A key that is empty, fails or is no text is never sent.
-/

namespace DocBuild

/-- What a caller gives as a key. -/
inductive ApiKey where
  | literal (key : Text)
  /-- An asynchronous function, by its outcome. -/
  | provider (outcome : Except Fault Json)
  /-- A function that is not asynchronous, by its value. -/
  | plainFunction (value : Json)
  | other (value : Json)

namespace ClientError

/-- An error about the key; its status is that of a missing key. -/
def authentication (message : Text) (details : Option Members) (cause : Option Fault) : ClientError :=
  ofKind .authentication message details (some 401) cause

end ClientError

namespace ApiKey

/-- Refuses what cannot be a key: what is empty, and what is neither a text nor a function. -/
def check : ApiKey → Except Fault Unit
  | literal [] => .error (.validation "API key is required" none)
  | other value =>
    .error <|
      if value.isGiven then
        .validation "API key must be a string or an async function returning a string" none
      else .validation "API key is required" none
  | _ => .ok ()

/-- The error of a function that failed. -/
def unresolved (cause : Fault) : ClientError :=
  .authentication "Failed to resolve API key from function" (some [("error", .str cause.text)])
    (some cause)

/-- The error of a function whose value is no key. -/
def notKey (value : Json) : ClientError :=
  .authentication "API key function must return a non-empty string"
    (some [("resolved_type", .str value.kindName)]) none

/-- The key that the value of a function is: any text that is not empty. -/
def ofValue (value : Json) : Except ClientError Text :=
  match value with
  | .str (c :: rest) => .ok (c :: rest)
  | value => .error (notKey value)

/-- The key to send. An authentication error of a function is kept as it is. -/
def resolve : ApiKey → Except ClientError Text
  | literal [] => .error (.authentication "API key is required" none none)
  | literal key => .ok key
  | provider (.ok value) => ofValue value
  | provider (.error (.client e)) =>
    .error (if e.kind = .authentication then e else unresolved (.client e))
  | provider (.error fault) => .error (unresolved fault)
  | plainFunction value =>
    .error (unresolved (.ofForeign .type
      ("object " ++ value.kindName ++ " can't be used in 'await' expression")))
  | other value =>
    .error (unresolved (.foreign (.notCallable value.kindName)))

end ApiKey

end DocBuild
