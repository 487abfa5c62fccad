import DocBuild.Deflate.PrefixCode

/-!
# Blocks of compressed data

Compressed data are a sequence of blocks. A block is stored as it is, or it is a sequence of symbols: for an
octet, for the end of the block, or for the length of something that the output has already, followed by its
distance. The codes of the symbols are fixed ones, or they stand at the beginning of the block.
-/

namespace DocBuild.Deflate

/-- The shortest length of each length symbol, and the number of bits that are added to it. -/
def lengths : List (Nat × Nat) :=
  [(3, 0), (4, 0), (5, 0), (6, 0), (7, 0), (8, 0), (9, 0), (10, 0), (11, 1), (13, 1), (15, 1), (17, 1),
   (19, 2), (23, 2), (27, 2), (31, 2), (35, 3), (43, 3), (51, 3), (59, 3), (67, 4), (83, 4), (99, 4),
   (115, 4), (131, 5), (163, 5), (195, 5), (227, 5), (258, 0)]

/-- The shortest distance of each distance symbol, and the number of bits that are added to it. -/
def distances : List (Nat × Nat) :=
  [(1, 0), (2, 0), (3, 0), (4, 0), (5, 1), (7, 1), (9, 2), (13, 2), (17, 3), (25, 3), (33, 4), (49, 4),
   (65, 5), (97, 5), (129, 6), (193, 6), (257, 7), (385, 7), (513, 8), (769, 8), (1025, 9), (1537, 9),
   (2049, 10), (3073, 10), (4097, 11), (6145, 11), (8193, 12), (12289, 12), (16385, 13), (24577, 13)]

/-- The code of the symbols of literals and lengths, and the code of the symbols of distances. -/
structure BlockCodes where
  literals : PrefixCode
  distances : PrefixCode

namespace BlockCodes

/-- The fixed codes. -/
def fixed : BlockCodes where
  literals := .ofLengths <|
    List.replicate 144 8 ++ List.replicate 112 9 ++ List.replicate 24 7 ++ List.replicate 8 8
  distances := .ofLengths (List.replicate 32 5)

/-- The order in which the lengths of the words for lengths stand. -/
def order : List Nat := [16, 17, 18, 0, 8, 7, 9, 6, 10, 5, 11, 4, 12, 3, 13, 2, 14, 1, 15]

/-- Reads `count` lengths of three bits. -/
def shortLengths : Nat → Reader (List Nat)
  | 0 => pure []
  | count + 1 => do
    let length ← Reader.number 3
    return length :: (← shortLengths count)

/-- Reads lengths until there are `total`, in front of those found so far in reverse. Three of the symbols
repeat a length. -/
def readLengths (code : PrefixCode) (total : Nat) : Nat → List Nat → Reader (List Nat)
  | 0, found => pure found.reverse
  | fuel + 1, found =>
    if total ≤ found.length then pure found.reverse
    else do
      let again (length shortest bits : Nat) : Reader (List Nat) := do
        let times := shortest + (← Reader.number bits)
        if total < found.length + times then Reader.refuse .repetition
        readLengths code total fuel (List.replicate times length ++ found)
      match (← code.read).getD 0, found with
      | 16, last :: _ => again last 3 2
      | 16, [] => do
        let _ ← Reader.number 2
        Reader.refuse .repetition
      | 17, _ => again 0 3 3
      | 18, _ => again 0 11 7
      | length, _ => readLengths code total fuel (length :: found)

/-- Reads the codes at the beginning of a block. -/
def read : Reader BlockCodes := do
  let literalCount := 257 + (← Reader.number 5)
  let distanceCount := 1 + (← Reader.number 5)
  let lengthCount := 4 + (← Reader.number 4)
  if 286 < literalCount || 30 < distanceCount then Reader.refuse .tooManySymbols
  let listed := order.zip (← shortLengths lengthCount)
  let lengths := (List.range 19).map fun symbol => (listed.lookup symbol).getD 0
  if !PrefixCode.isComplete lengths then Reader.refuse .lengthCode
  let total := literalCount + distanceCount
  let all ← readLengths (.ofLengths lengths) total total []
  let literals := all.take literalCount
  let distances := all.drop literalCount
  if literals.getD 256 0 = 0 then Reader.refuse .noEndOfBlock
  if !PrefixCode.isCompleteOrSingle literals then Reader.refuse .literalCode
  if !PrefixCode.isCompleteOrSingle distances then Reader.refuse .distanceCode
  return ⟨.ofLengths literals, .ofLengths distances⟩

end BlockCodes

/-- Reads the bits that are added to the shortest value of a symbol. -/
def valueOf (flaw : Flaw) (values : List (Nat × Nat)) (symbol : Option Nat) : Reader Nat :=
  match symbol.bind (values[·]?) with
  | some (shortest, bits) => do return shortest + (← Reader.number bits)
  | none => Reader.refuse flaw

/-- Reads symbols up to the end of a block. Every symbol takes a bit, so that as many steps as there are bits
suffice. -/
def readSymbols (codes : BlockCodes) : Nat → Reader Unit
  | 0 => pure ()
  | fuel + 1 => do
    match ← codes.literals.read with
    | none => Reader.refuse .literalSymbol
    | some symbol =>
      if symbol < 256 then
        Reader.write (UInt8.ofNat symbol)
        readSymbols codes fuel
      else if symbol = 256 then pure ()
      else
        let length ← valueOf .literalSymbol lengths (some (symbol - 257))
        let distance ← valueOf .distanceSymbol distances (← codes.distances.read)
        if (← get).output.size < distance then Reader.refuse .distanceTooFar
        Reader.repeatOutput distance length
        readSymbols codes fuel

/-- Reads a block of symbols. -/
def readCoded (codes : BlockCodes) : Reader Unit := do readSymbols codes ((← get).bits.length + 1)

/-- Reads a stored block. Its length stands there twice, the second time with all bits flipped. -/
def readStored : Reader Unit := do
  Reader.skipToOctet
  let length ← Reader.number 16
  if length + (← Reader.number 16) ≠ 0xFFFF then Reader.refuse .storedLength
  Reader.copy length

/-- Reads blocks up to the one that is marked as the last. Every block takes a bit, so that as many steps as
there are bits suffice. -/
def readBlocks : Nat → Reader Unit
  | 0 => pure ()
  | fuel + 1 => do
    let isLast ← Reader.bit
    match ← Reader.number 2 with
    | 0 => readStored
    | 1 => readCoded .fixed
    | 2 => readCoded (← BlockCodes.read)
    | _ => Reader.refuse .blockType
    if isLast then pure () else readBlocks fuel

end DocBuild.Deflate
