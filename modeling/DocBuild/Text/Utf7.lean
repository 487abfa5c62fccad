import DocBuild.Text.Piece

/-!
# UTF-7

Between a plus sign and the first sign that is none of base 64, octets stand for six bits each, and every
sixteen bits are a unit of UTF-16. All other octets are ASCII. A run that leaves a digit's bits or a set bit
unused is ill-formed, and so is an end of the text within one. A lone surrogate passes.
-/

namespace DocBuild.Utf7

/-- The value of a digit of base 64. -/
def digit? (b : UInt8) : Option Nat :=
  let n := b.toNat
  if 0x41 ≤ n && n ≤ 0x5A then some (n - 0x41)
  else if 0x61 ≤ n && n ≤ 0x7A then some (n - 0x61 + 26)
  else if 0x30 ≤ n && n ≤ 0x39 then some (n - 0x30 + 52)
  else if n = 0x2B then some 62
  else if n = 0x2F then some 63
  else none

/-- A run of base 64: how many bits no unit has used yet, their value, and a high surrogate that waits for
its low one. -/
structure Shift where
  bits : Nat := 0
  value : Nat := 0
  waiting : Option Nat := none

namespace Shift

/-- The text that a unit completes, and the high surrogate that waits afterwards. -/
def unit (waiting : Option Nat) (unit : Nat) : Text × Option Nat :=
  let isHigh := 0xD800 ≤ unit && unit < 0xDC00
  let isLow := 0xDC00 ≤ unit && unit < 0xE000
  let own : Text := if isHigh then [] else [CodePoint.ofNat unit]
  let next := if isHigh then some unit else none
  match waiting with
  | none => (own, next)
  | some high =>
    if isLow then ([CodePoint.ofNat (0x10000 + (high - 0xD800) * 1024 + (unit - 0xDC00))], none)
    else (CodePoint.ofNat high :: own, next)

/-- Takes a digit. -/
def take (s : Shift) (digit : Nat) : Text × Shift :=
  let bits := s.bits + 6
  let value := 64 * s.value + digit
  if bits < 16 then ([], ⟨bits, value, s.waiting⟩)
  else
    let unused := Nat.pow 2 (bits - 16)
    let (text, waiting) := unit s.waiting (value / unused)
    (text, ⟨bits - 16, value % unused, waiting⟩)

/-- Whether the bits that no unit has used are more than padding. -/
def hasRest (s : Shift) : Bool := 6 ≤ s.bits || s.value ≠ 0

/-- The piece of the octet that ends a run. A hyphen does nothing else. -/
def leave (s : Shift) (b : UInt8) : Piece :=
  if s.hasRest then .flaw .unexpectedEnd 1
  else if 0x80 ≤ b.toNat then .flaw .invalidStart 1
  else
    let left : Text := s.waiting.toList.map CodePoint.ofNat
    .text (if b = 0x2D then left else left ++ [CodePoint.ofByte b]) 1

end Shift

/-- The first piece of a byte string, and the run of base 64 that goes on behind it. -/
def read : Option Shift → UInt8 → Bytes → Piece × Option Shift
  | some shift, b, _ =>
    match digit? b with
    | some digit =>
      let (text, shift) := shift.take digit
      (.text text 1, some shift)
    | none => (shift.leave b, none)
  | none, 0x2B, rest =>
    match rest with
    | 0x2D :: _ => (.point (CodePoint.ofChar '+') 2, none)
    | next :: _ => if (digit? next).isSome then (.text [] 1, some {}) else (.flaw .invalidContinuation 2, none)
    | [] => (.text [] 1, some {})
  | none, b, _ => (if b.toNat < 0x80 then .point (CodePoint.ofByte b) 1 else .flaw .invalidStart 1, none)

/-- The flaw of a text that ends within a run. -/
def finish (shift? : Option Shift) : Option Piece :=
  shift?.bind fun shift =>
    if shift.hasRest || shift.waiting.isSome then some (.flaw .unexpectedEnd 0) else none

/-- The pieces of a byte string. -/
def pieces : Bytes → List Piece := StatefulReader.pieces ⟨none, read, finish⟩

end DocBuild.Utf7
