import DocBuild.Json.Parser
import DocBuild.Text.Strict

/-!
# JSON text in octets

The encoding of JSON text is recognised by its byte order mark, or else by the places of the zero octets
among the first four, since the first two characters of JSON text are ASCII. Surrogates pass.
-/

namespace DocBuild.Json

/-- The encodings of JSON text. -/
inductive Encoding where
  | utf8 (mark : Nat)
  | utf16 (order : ByteOrder) (mark : Nat)
  | utf32 (order : ByteOrder) (mark : Nat)
deriving DecidableEq

/-- The encoding of octets without a byte order mark. -/
def unmarkedEncoding (bytes : Bytes) : Encoding :=
  match bytes with
  | a :: b :: c :: d :: _ =>
    if a = 0 then (if b = 0 then .utf32 .big 0 else .utf16 .big 0)
    else if b = 0 then (if c = 0 ∧ d = 0 then .utf32 .little 0 else .utf16 .little 0)
    else .utf8 0
  | [a, b] => if a = 0 then .utf16 .big 0 else if b = 0 then .utf16 .little 0 else .utf8 0
  | _ => .utf8 0

/-- The encoding of octets, with the number of octets in their byte order mark. -/
def encodingOf (bytes : Bytes) : Encoding :=
  if List.isPrefixOf [0, 0, 0xFE, 0xFF] bytes then .utf32 .big 4
  else if List.isPrefixOf [0xFF, 0xFE, 0, 0] bytes then .utf32 .little 4
  else if List.isPrefixOf [0xFE, 0xFF] bytes then .utf16 .big 2
  else if List.isPrefixOf [0xFF, 0xFE] bytes then .utf16 .little 2
  else if List.isPrefixOf [0xEF, 0xBB, 0xBF] bytes then .utf8 3
  else unmarkedEncoding bytes

/-- The text of octets in an encoding. In UTF-8 the places of flaws are counted after the mark. -/
def Encoding.decode : Encoding → Bytes → Except DecodeError Text
  | .utf8 mark, bytes => decodeStrictly "utf-8" Utf8.readPassing 0 (bytes.drop mark)
  | .utf16 .big mark, bytes => decodeStrictly "utf-16-be" (Utf16.read .big true) mark bytes
  | .utf16 .little mark, bytes => decodeStrictly "utf-16-le" (Utf16.read .little true) mark bytes
  | .utf32 .big mark, bytes => decodeStrictly "utf-32-be" (Utf32.read .big true) mark bytes
  | .utf32 .little mark, bytes => decodeStrictly "utf-32-le" (Utf32.read .little true) mark bytes

/-- Why octets are no JSON text. -/
inductive OctetsError where
  | encoding (error : DecodeError)
  | text (text : Text) (error : ParseError)

/-- The words for what is wrong. -/
def OctetsError.message : OctetsError → Text
  | .encoding e => e.message
  | .text s e => e.message s

/-- Reads octets as JSON text. -/
def ofOctets (bytes : Bytes) : Except OctetsError Json :=
  match (encodingOf bytes).decode bytes with
  | .error e => .error (.encoding e)
  | .ok s =>
    match parse s with
    | .error e => .error (.text s e)
    | .ok value => .ok value

end DocBuild.Json
