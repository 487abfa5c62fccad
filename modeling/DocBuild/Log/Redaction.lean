import DocBuild.Text.Blank

/-!
# Masking bearer tokens

A token is a run of characters without blanks that follows the word `Bearer` and at least one blank. In
a log message every token is replaced by a mask; all else is kept. Occurrences are found from left to
right, and what belongs to one is not looked at again.
-/

namespace DocBuild.Log

/-- The word in front of a token. -/
def bearer : Text := "Bearer"

/-- What stands for a token. -/
def mask : Text := "[redacted]"

/-- The word and the blanks in front of a token at the beginning of a text, and the token. -/
def tokenHere? (t : Text) : Option (Text × Text) :=
  if bearer.isPrefixOf t then
    let rest := t.drop bearer.length
    let blanks := rest.takeWhile (·.isBlank)
    let token := (rest.drop blanks.length).takeWhile (!·.isBlank)
    if blanks.isEmpty || token.isEmpty then none else some (bearer ++ blanks, token)
  else none

/-- Masks the tokens of a text; the first `skip` characters belong to the token found last. -/
def redactFrom : Nat → Text → Text
  | _, [] => []
  | skip + 1, _ :: rest => redactFrom skip rest
  | 0, c :: rest =>
    match tokenHere? (c :: rest) with
    | some (lead, token) => lead ++ mask ++ redactFrom (lead.length + token.length - 1) rest
    | none => c :: redactFrom 0 rest

/-- The text with every token masked. -/
def redact (t : Text) : Text := redactFrom 0 t

example : redact "Bearer  a  b Bearer" = "Bearer  [redacted]  b Bearer" := by decide

end DocBuild.Log
