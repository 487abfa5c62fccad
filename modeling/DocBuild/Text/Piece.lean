import DocBuild.Text.Basic

/-!
# Pieces of encoded text

Decoding reads a byte string as a sequence of pieces. A piece is either a well-formed sequence of octets
with the text it stands for, mostly one code point, or an ill-formed run with the reason why it is none.
An encoding gives a reader for the first piece; the sequence of pieces is then the same recursion for all of
them. In some encodings what octets mean depends on those before them: their readers have a state.
-/

namespace DocBuild

/-- Why a run of octets is no code point. -/
inductive DecodeFlaw where
  | invalidStart
  | invalidContinuation
  | unexpectedEnd
  | truncated
  | strayLowSurrogate
  | lowSurrogateMissing
  | outOfRange
  | surrogateCode
  | unassigned
  | noSingleShift
deriving DecidableEq

/-- The words for a flaw. -/
def DecodeFlaw.message : DecodeFlaw → Text
  | .invalidStart => "invalid start byte"
  | .invalidContinuation => "invalid continuation byte"
  | .unexpectedEnd => "unexpected end of data"
  | .truncated => "truncated data"
  | .strayLowSurrogate => "illegal encoding"
  | .lowSurrogateMissing => "illegal UTF-16 surrogate"
  | .outOfRange => "code point not in range(0x110000)"
  | .surrogateCode => "code point in surrogate code point range(0xd800, 0xe000)"
  | .unassigned => "illegal multibyte sequence"
  | .noSingleShift => "internal codec error"

/-- A run of octets at the front of a byte string: a code point, another text, or the reason why it is
none. -/
inductive Piece where
  | point (c : CodePoint) (length : Nat)
  | text (t : Text) (length : Nat)
  | flaw (reason : DecodeFlaw) (length : Nat)
deriving DecidableEq

namespace Piece

/-- The number of octets that a piece takes. -/
def length : Piece → Nat
  | point _ n => n
  | text _ n => n
  | flaw _ n => n

/-- The text of a piece, with the replacement character for an ill-formed one. -/
def lenient : Piece → Text
  | point c _ => [c]
  | text t _ => t
  | flaw _ _ => [CodePoint.replacement]

/-- The text of a piece, if it is well-formed. -/
def strict? : Piece → Option Text
  | point c _ => some [c]
  | text t _ => some t
  | flaw _ _ => none

end Piece

/-- Reads the first piece of a byte string, given as its first octet and the rest. -/
abbrev PieceReader := UInt8 → Bytes → Piece

namespace PieceReader

/-- The pieces of a byte string in reverse, in front of those found so far. The first `skip` octets
belong to the piece found last. -/
def onto (read : PieceReader) (found : List Piece) : Nat → Bytes → List Piece
  | _, [] => found
  | skip + 1, _ :: rest => onto read found skip rest
  | 0, first :: rest =>
    let piece := read first rest
    onto read (piece :: found) (piece.length - 1) rest

/-- The pieces of a byte string in order. -/
def pieces (read : PieceReader) (bytes : Bytes) : List Piece := (onto read [] 0 bytes).reverse

/-- The text of a byte string, with the replacement character for each ill-formed piece. -/
def lenient (read : PieceReader) (bytes : Bytes) : Text := (read.pieces bytes).flatMap Piece.lenient

end PieceReader

/-- A reader whose pieces depend on a state, and which may find a last piece when the octets are used up. -/
structure StatefulReader (State : Type) where
  start : State
  read : State → UInt8 → Bytes → Piece × State
  finish : State → Option Piece := fun _ => none

namespace StatefulReader

variable {State : Type}

/-- The pieces of a byte string in reverse, in front of those found so far. The first `skip` octets
belong to the piece found last. -/
def onto (r : StatefulReader State) (found : List Piece) (state : State) : Nat → Bytes → List Piece
  | _, [] => (r.finish state).toList ++ found
  | skip + 1, _ :: rest => onto r found state skip rest
  | 0, first :: rest =>
    let (piece, state) := r.read state first rest
    onto r (piece :: found) state (piece.length - 1) rest

/-- The pieces of a byte string in order. -/
def pieces (r : StatefulReader State) (bytes : Bytes) : List Piece :=
  (onto r [] r.start 0 bytes).reverse

end StatefulReader

/-- The place of the first ill-formed piece of a byte string. -/
structure FlawedAt where
  position : Nat
  length : Nat
  reason : DecodeFlaw
deriving DecidableEq

/-- The first ill-formed piece of a sequence that starts at `position`. -/
def Piece.firstFlaw? (position : Nat) : List Piece → Option FlawedAt
  | [] => none
  | .point _ n :: rest => firstFlaw? (position + n) rest
  | .text _ n :: rest => firstFlaw? (position + n) rest
  | .flaw reason n :: _ => some ⟨position, n, reason⟩

end DocBuild
