import DocBuild.Output
import DocBuild.Service.Request
import DocBuild.Json.Printer
import DocBuild.Text.Strict

/-!
# Products

What a build gives: a binary document, a text document, or extracted content. Which one it is follows from
the output; the answer of the service has to fit it. An answer that is no octets can still be taken for
octets if it is a list of them or the number of zeros wanted.
-/

namespace DocBuild

/-- A binary document. -/
structure Document where
  data : Bytes
  mediaType : Text
  filename : Text
deriving DecidableEq

/-- What a build gives. -/
inductive Product where
  | document (document : Document)
  | text (content mediaType filename : Text)
  | extraction (content : Content)

namespace Product

/-- The name by which messages call the kind of a product. -/
def kindName : Product → Text
  | document .. => "BufferOutput"
  | text .. => "ContentOutput"
  | extraction _ => "JsonContentOutput"

/-- The most zeros that memory holds. -/
def maxZeros : Nat := 0x10000000000

/-- The most zeros that can be asked for. -/
def maxCount : Nat := 0x8000000000000000

/-- So many zeros. -/
def zeros (n : Int) : Except ForeignError Bytes :=
  if maxCount ≤ n ∨ n < -maxCount then
    .error ⟨.overflow, "cannot fit 'int' into an index-sized integer"⟩
  else if n < 0 then .error ⟨.value, "negative count"⟩
  else if maxZeros ≤ n then .error ⟨.memory, []⟩
  else .ok (List.replicate n.toNat 0)

/-- The octet with a number. -/
def octet (n : Int) : Except ForeignError UInt8 :=
  if 0 ≤ n ∧ n < 256 then .ok (UInt8.ofNat n.toNat)
  else .error ⟨.value, "bytes must be in range(0, 256)"⟩

/-- The octet that a value is. -/
def octetOf : Json → Except ForeignError UInt8
  | .int n => octet n
  | .bool b => octet (if b then 1 else 0)
  | value => .error (.notWhole value.kindName)

/-- The octets that a value stands for. -/
def octetsOf : Json → Except ForeignError Bytes
  | .int n => zeros n
  | .bool b => zeros (if b then 1 else 0)
  | .str _ => .error ⟨.type, "string argument without an encoding"⟩
  | .arr items => items.mapM octetOf
  | .obj members => (members.map fun m => Json.str m.1).mapM octetOf
  | .table entries => (entries.map fun e => e.1.toJson).mapM octetOf
  | value => .error ⟨.type, "cannot convert '" ++ value.kindName ++ "' object to bytes"⟩

/-- The octets that an answer stands for. -/
def octetsIn : Content → Except ForeignError Bytes
  | .bytes data => .ok data
  | .value value => octetsOf value

/-- The text that an answer stands for. -/
def textIn : Content → Except ForeignError Text
  | .bytes data => (Utf8.decode data).mapError fun e => ⟨.undecodable, e.message⟩
  | .value value => .ok value.display

/-- The product that the content of an answer is for an output. -/
def ofContent (output : Output) (content : Content) : Except ForeignError Product :=
  let (mediaType, filename) := output.mediaType
  if output.type = .jsonContent then .ok (.extraction content)
  else if output.type.isText then (textIn content).map (.text · mediaType filename)
  else (octetsIn content).map fun data => .document ⟨data, mediaType, filename⟩

end Product

/-- The form in which the answer for an output is wanted. -/
def Output.answerFormat (o : Output) : AnswerFormat :=
  if o.type = .jsonContent then .json
  else if o.type.isText then .text
  else .bytes

end DocBuild
