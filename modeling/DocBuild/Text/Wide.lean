import DocBuild.Text.Piece

/-!
# UTF-16 and UTF-32

The encodings in units of two and four octets, in either byte order.
-/

namespace DocBuild

/-- The order of the octets in a unit. -/
inductive ByteOrder where
  | big
  | little
deriving DecidableEq

namespace ByteOrder

/-- The number that octets in this order denote. -/
def value (order : ByteOrder) (octets : Bytes) : Nat :=
  let bigEndian := match order with
    | .big => octets
    | .little => octets.reverse
  bigEndian.foldl (fun n b => 256 * n + b.toNat) 0

end ByteOrder

namespace Utf16

/-- The first piece of a byte string. Surrogates pass if `passing` is set: a high one that no low one
follows, and a low one on its own, are then code points. -/
def read (order : ByteOrder) (passing : Bool) : PieceReader := fun first rest =>
  match rest with
  | [] => .flaw .truncated 1
  | second :: rest =>
    let unit := order.value [first, second]
    let lone := fun (flaw : Piece) => if passing then .point (CodePoint.ofNat unit) 2 else flaw
    if unit < 0xD800 || 0xE000 ≤ unit then .point (CodePoint.ofNat unit) 2
    else if 0xDC00 ≤ unit then lone (.flaw .strayLowSurrogate 2)
    else
      match rest with
      | third :: fourth :: _ =>
        let low := order.value [third, fourth]
        if 0xDC00 ≤ low && low < 0xE000 then
          .point (CodePoint.ofNat (0x10000 + (unit - 0xD800) * 1024 + (low - 0xDC00))) 4
        else lone (.flaw .lowSurrogateMissing 2)
      | tail => lone (.flaw .unexpectedEnd (2 + tail.length))

end Utf16

namespace Utf32

/-- The first piece of a byte string. Surrogates are code points if `passing` is set. -/
def read (order : ByteOrder) (passing : Bool) : PieceReader := fun first rest =>
  match rest with
  | second :: third :: fourth :: _ =>
    let unit := order.value [first, second, third, fourth]
    if 0x110000 ≤ unit then .flaw .outOfRange 4
    else if !passing && 0xD800 ≤ unit && unit < 0xE000 then .flaw .surrogateCode 4
    else .point (CodePoint.ofNat unit) 4
  | tail => .flaw .truncated (1 + tail.length)

end Utf32

end DocBuild
