import DocBuild.Text.Piece

/-!
# UTF-8

An ill-formed piece is the longest run of octets that could have begun a sequence, or one octet if none
could. Surrogates are ill-formed unless the reader is told to let them pass.
-/

namespace DocBuild.Utf8

/-- The continuation octets are those that start with the bits `10`. -/
def isContinuation (b : UInt8) : Bool := 0x80 ≤ b.toNat && b.toNat < 0xC0

/-- Whether `b` may follow the leading octet `lead`. The first continuation octet of some leads is
restricted, so that no code point has two encodings and none is beyond the last. -/
def mayFollow (lead b : UInt8) : Bool :=
  isContinuation b &&
  (if lead.toNat = 0xE0 then 0xA0 ≤ b.toNat
   else if lead.toNat = 0xED then b.toNat < 0xA0
   else if lead.toNat = 0xF0 then 0x90 ≤ b.toNat
   else if lead.toNat = 0xF4 then b.toNat < 0x90
   else true)

/-- Reads `wanted` further continuation octets after `taken` octets with the value `value` so far. -/
def continuation (value taken : Nat) : Nat → Bytes → Piece
  | 0, _ => .point (CodePoint.ofNat value) taken
  | _ + 1, [] => .flaw .unexpectedEnd taken
  | wanted + 1, b :: rest =>
    if isContinuation b then continuation (value * 64 + b.toNat % 64) (taken + 1) wanted rest
    else .flaw .invalidContinuation taken

/-- Reads a sequence whose leading octet contributes `value` and announces `wanted` octets after the
first continuation octet. -/
def sequenceFrom (lead : UInt8) (value wanted : Nat) : Bytes → Piece
  | [] => .flaw .unexpectedEnd 1
  | b :: rest =>
    if mayFollow lead b then continuation (value * 64 + b.toNat % 64) 2 wanted rest
    else .flaw .invalidContinuation 1

/-- The first piece of a byte string by the strict rules. -/
def read : PieceReader := fun lead rest =>
  if lead.toNat < 0x80 then .point (CodePoint.ofByte lead) 1
  else if lead.toNat < 0xC2 then .flaw .invalidStart 1
  else if lead.toNat < 0xE0 then sequenceFrom lead (lead.toNat % 32) 0 rest
  else if lead.toNat < 0xF0 then sequenceFrom lead (lead.toNat % 16) 1 rest
  else if lead.toNat < 0xF5 then sequenceFrom lead (lead.toNat % 8) 2 rest
  else .flaw .invalidStart 1

/-- The code point of three octets that spell a surrogate. -/
def surrogate? : Bytes → Option CodePoint
  | a :: b :: c :: _ =>
    let n := a.toNat % 16 * 4096 + b.toNat % 64 * 64 + c.toNat % 64
    if a.toNat / 16 = 0xE ∧ isContinuation b ∧ isContinuation c ∧ 0xD800 ≤ n ∧ n < 0xE000 then
      some (CodePoint.ofNat n)
    else none
  | _ => none

/-- The first piece of a byte string when surrogates pass. -/
def readPassing : PieceReader := fun lead rest =>
  match read lead rest with
  | .flaw reason n =>
    match surrogate? (lead :: rest) with
    | some c => .point c 3
    | none => .flaw reason n
  | piece => piece

/-- The octets of a code point. -/
def encodePoint (c : CodePoint) : Bytes :=
  let n := c.val
  if n < 0x80 then [UInt8.ofNat n]
  else if n < 0x800 then [UInt8.ofNat (0xC0 + n / 64), UInt8.ofNat (0x80 + n % 64)]
  else if n < 0x10000 then
    [UInt8.ofNat (0xE0 + n / 4096), UInt8.ofNat (0x80 + n / 64 % 64), UInt8.ofNat (0x80 + n % 64)]
  else
    [UInt8.ofNat (0xF0 + n / 262144), UInt8.ofNat (0x80 + n / 4096 % 64),
      UInt8.ofNat (0x80 + n / 64 % 64), UInt8.ofNat (0x80 + n % 64)]

/-- The octets of a text. A lone surrogate gets the three octets of its number. -/
def encode (t : Text) : Bytes := t.flatMap encodePoint

example : read.pieces (encode "aé文") = [.point 'a' 1, .point 'é' 2, .point '文' 3] := by decide

end DocBuild.Utf8
