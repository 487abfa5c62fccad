import DocBuild.Text.Utf8
import DocBuild.Text.Wide

/-!
# Strict decoding

Strict decoding gives the text of a byte string or the first place where the byte string is ill-formed,
together with the words for it.
-/

namespace DocBuild

/-- Why a byte string could not be decoded: where, and the octet that stands there. -/
structure DecodeError where
  encoding : Text
  place : FlawedAt
  octet : UInt8
deriving DecidableEq

/-- The words for a decoding error. One octet is shown; several are only counted. -/
def DecodeError.message (e : DecodeError) : Text :=
  let first := e.place.position
  "'" ++ e.encoding ++ "' codec can't decode " ++
    (if e.place.length ≤ 1 then
      "byte 0x" ++ Text.hex 2 e.octet.toNat ++ " in position " ++ Text.ofNat first
    else
      "bytes in position " ++ Text.ofNat first ++ "-" ++ Text.ofNat (first + e.place.length - 1)) ++
    ": " ++ e.place.reason.message

/-- The text of a byte string, or the first flaw in it. The octets before `start` are skipped, but count
in the position of a flaw. -/
def decodeStrictly (encoding : Text) (read : PieceReader) (start : Nat) (bytes : Bytes) :
    Except DecodeError Text :=
  let pieces := read.pieces (bytes.drop start)
  match Piece.firstFlaw? start pieces with
  | some place => .error ⟨encoding, place, bytes.getD place.position 0⟩
  | none => .ok (pieces.flatMap Piece.lenient)

/-- Strict decoding of UTF-8. -/
def Utf8.decode (bytes : Bytes) : Except DecodeError Text := decodeStrictly "utf-8" Utf8.read 0 bytes

example : Utf8.decode [0x41, 0xFF] = .error ⟨"utf-8", ⟨1, 1, .invalidStart⟩, 0xFF⟩ := rfl

end DocBuild
