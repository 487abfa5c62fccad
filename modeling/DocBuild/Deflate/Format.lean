import DocBuild.Deflate.Block

/-!
# Formats of compressed data

Blocks of compressed data come bare or between a header and check values. What follows the end of the
compressed data is left alone; data that end early give as much as can be decompressed.
-/

namespace DocBuild.Deflate

/-- The check value of the short format: the sum of the octets and the sum of those sums. -/
def sumCheck (bytes : Array UInt8) : Nat :=
  let (a, b) := bytes.foldl
    (fun (a, b) octet => let a := (a + octet.toNat) % 65521; (a, (b + a) % 65521)) (1, 0)
  65536 * b + a

/-- A step of the remainder of a division of polynomials over bits. -/
def remainderStep (r : Nat) : Nat := if r % 2 = 1 then Nat.xor (r / 2) 0xEDB88320 else r / 2

/-- The remainder after eight more bits. -/
def remainderOfOctet (r : Nat) (octet : UInt8) : Nat :=
  (List.range 8).foldl (fun r _ => remainderStep r) (Nat.xor r octet.toNat)

/-- The check value of the long format: the remainder of a division of polynomials over bits. -/
def remainderCheck (bytes : Array UInt8) : Nat :=
  Nat.xor (bytes.foldl remainderOfOctet 0xFFFFFFFF) 0xFFFFFFFF

/-- The formats. -/
inductive Format where
  | bare
  | zlib
  | gzip

namespace Format

/-- Reads a number of four octets, the highest one first. -/
def bigEndian : Reader Nat := do
  let a ← Reader.number 8
  let b ← Reader.number 8
  let c ← Reader.number 8
  return ((a * 256 + b) * 256 + c) * 256 + (← Reader.number 8)

/-- Reads the header of the short format. -/
def zlibHeader : Reader Unit := do
  let first ← Reader.number 8
  let second ← Reader.number 8
  if (256 * first + second) % 31 ≠ 0 then Reader.refuse .header
  if first % 16 ≠ 8 then Reader.refuse .method
  if 7 < first / 16 then Reader.refuse .windowSize
  if second.testBit 5 then
    let _ ← bigEndian
    Reader.refuse .dictionary

/-- Passes octets up to a zero, of which there are at most as many as steps. -/
def skipText : Nat → Reader Unit
  | 0 => pure ()
  | fuel + 1 => do if (← Reader.number 8) ≠ 0 then skipText fuel

/-- Passes `count` octets. -/
def skip : Nat → Reader Unit
  | 0 => pure ()
  | count + 1 => do
    let _ ← Reader.number 8
    skip count

/-- Reads the header of the long format: the time and the system are followed by what the flags announce. -/
def gzipHeader (bytes : Bytes) : Reader Unit := do
  if (← Reader.number 16) ≠ 0x8B1F then Reader.refuse .header
  let method ← Reader.number 8
  let flags ← Reader.number 8
  if method ≠ 8 then Reader.refuse .method
  if 32 ≤ flags then Reader.refuse .headerFlags
  skip 6
  if flags.testBit 2 then skip (← Reader.number 16)
  if flags.testBit 3 then skipText bytes.length
  if flags.testBit 4 then skipText bytes.length
  if flags.testBit 1 then
    let passed := bytes.length - (← get).bits.length / 8
    if (← Reader.number 16) ≠ remainderCheck (bytes.take passed).toArray % 65536 then
      Reader.refuse .headerCheck

/-- Reads compressed data in a format. -/
def read (bytes : Bytes) : Format → Reader Unit
  | bare => readBlocks (8 * bytes.length)
  | zlib => do
    zlibHeader
    readBlocks (8 * bytes.length)
    Reader.skipToOctet
    if (← bigEndian) ≠ sumCheck (← get).output then Reader.refuse .dataCheck
  | gzip => do
    gzipHeader bytes
    readBlocks (8 * bytes.length)
    Reader.skipToOctet
    if (← Reader.number 32) ≠ remainderCheck (← get).output then Reader.refuse .dataCheck
    if (← Reader.number 32) ≠ (← get).output.size % 4294967296 then Reader.refuse .lengthCheck

/-- The octets that compressed data in a format stand for. -/
def decode (format : Format) (bytes : Bytes) : Except Flaw Bytes :=
  match (format.read bytes).run { bits := bitsOf bytes } with
  | .ok _ s => .ok s.output.toList
  | .error .ended s => .ok s.output.toList
  | .error (.flawed flaw) _ => .error flaw

example : (bare.decode [0x4B, 0x4C, 0x84, 0x00, 0x00]).toOption = some "aaaaaaaa" := by decide +kernel

end Format

end DocBuild.Deflate
