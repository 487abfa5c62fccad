import DocBuild.Text.Basic

/-!
# Reading compressed data bit by bit

Compressed data are read as a sequence of bits, in each octet the lowest one first. Reading stops where the
bits are used up or where they are ill-formed; what has been decompressed up to there is kept.
-/

namespace DocBuild.Deflate

/-- Why compressed data are ill-formed. -/
inductive Flaw where
  | header
  | method
  | windowSize
  | headerFlags
  | headerCheck
  | dictionary
  | blockType
  | storedLength
  | tooManySymbols
  | lengthCode
  | repetition
  | noEndOfBlock
  | literalCode
  | distanceCode
  | literalSymbol
  | distanceSymbol
  | distanceTooFar
  | dataCheck
  | lengthCheck
deriving DecidableEq

/-- The words for a flaw. A missing dictionary has a number of its own and no further words. -/
def Flaw.message : Flaw → Text
  | dictionary => "Error 2 while decompressing data"
  | flaw =>
    let words : Text := match flaw with
      | header => "incorrect header check"
      | method => "unknown compression method"
      | windowSize => "invalid window size"
      | headerFlags => "unknown header flags set"
      | headerCheck => "header crc mismatch"
      | dictionary => ""
      | blockType => "invalid block type"
      | storedLength => "invalid stored block lengths"
      | tooManySymbols => "too many length or distance symbols"
      | lengthCode => "invalid code lengths set"
      | repetition => "invalid bit length repeat"
      | noEndOfBlock => "invalid code -- missing end-of-block"
      | literalCode => "invalid literal/lengths set"
      | distanceCode => "invalid distances set"
      | literalSymbol => "invalid literal/length code"
      | distanceSymbol => "invalid distance code"
      | distanceTooFar => "invalid distance too far back"
      | dataCheck => "incorrect data check"
      | lengthCheck => "incorrect length check"
    "Error -3 while decompressing data: " ++ words

/-- Why reading stopped. -/
inductive Stop where
  | ended
  | flawed (flaw : Flaw)

/-- The bits that are left, and the octets decompressed so far. -/
structure State where
  bits : List Bool
  output : Array UInt8 := #[]

/-- Reads bits and adds to the output. The state of the moment is kept when reading stops. -/
abbrev Reader := EStateM Stop State

namespace Reader

/-- Stops at ill-formed data. -/
def refuse {α : Type} (flaw : Flaw) : Reader α := throw (.flawed flaw)

/-- The next bit. -/
def bit : Reader Bool := do
  match (← get).bits with
  | [] => throw .ended
  | b :: rest =>
    modify fun s => { s with bits := rest }
    return b

/-- The number that the next `count` bits denote, the lowest one first. -/
def number : Nat → Reader Nat
  | 0 => pure 0
  | count + 1 => do
    let low ← bit
    return low.toNat + 2 * (← number count)

/-- Passes the bits that are left of an octet. -/
def skipToOctet : Reader Unit := modify fun s => { s with bits := s.bits.drop (s.bits.length % 8) }

/-- Adds an octet to the output. -/
def write (octet : UInt8) : Reader Unit := modify fun s => { s with output := s.output.push octet }

/-- Copies `count` octets to the output. -/
def copy : Nat → Reader Unit
  | 0 => pure ()
  | count + 1 => do
    write (UInt8.ofNat (← number 8))
    copy count

/-- Writes again `count` octets of the output that stand `distance` octets before its end. An octet just
written may be written again. -/
def repeatOutput (distance : Nat) : Nat → Reader Unit
  | 0 => pure ()
  | count + 1 => do
    let output := (← get).output
    write (output.getD (output.size - distance) 0)
    repeatOutput distance count

end Reader

/-- The bits of octets, in each octet the lowest one first. -/
def bitsOf (bytes : Bytes) : List Bool :=
  bytes.flatMap fun b => (List.range 8).map fun i => b.toNat.testBit i

end DocBuild.Deflate
