import DocBuild.Deflate.Bits

/-!
# Prefix codes

A prefix code is given by the number of bits of each symbol's code word: among words of one length the symbols
are in order, and shorter words come first. Reading takes bits until they are a word.
-/

namespace DocBuild.Deflate

/-- A prefix code: how many words have one bit, two bits and so on, and the symbols in the order of their
words. -/
structure PrefixCode where
  counts : List Nat
  symbols : Array Nat

namespace PrefixCode

/-- The largest number of bits of a word. -/
def maxLength : Nat := 15

/-- The code with the given lengths of words; a symbol of length zero has none. At least one bit is read even
if no symbol has a word. -/
def ofLengths (lengths : List Nat) : PrefixCode :=
  let longest := lengths.foldl max 1
  let sizes := (List.range longest).map (· + 1)
  { counts := sizes.map fun n => lengths.count n
    symbols := (sizes.flatMap fun n => lengths.zipIdx.filterMap fun (length, symbol) =>
      if length = n then some symbol else none).toArray }

/-- The share of all bit sequences that begin with a word, in parts of `2 ^ maxLength`. -/
def share (lengths : List Nat) : Nat :=
  lengths.foldl (fun share n => if n = 0 then share else share + Nat.pow 2 (maxLength - n)) 0

/-- Whether every bit sequence begins with exactly one word, or no symbol has a word. -/
def isComplete (lengths : List Nat) : Bool :=
  share lengths = 0 || share lengths = Nat.pow 2 maxLength

/-- Whether a code is complete or has a single word of one bit. -/
def isCompleteOrSingle (lengths : List Nat) : Bool :=
  isComplete lengths || (share lengths ≤ Nat.pow 2 maxLength && lengths.all (· ≤ 1))

/-- Reads a word. The words of the lengths to come begin at `first` and have their symbols from `index` on. -/
def readFrom (symbols : Array Nat) (word first index : Nat) : List Nat → Reader (Option Nat)
  | [] => pure none
  | count :: longer => do
    let word := 2 * word + (← Reader.bit).toNat
    if word < first + count then return symbols[index + (word - first)]?
    else readFrom symbols word (2 * (first + count)) (index + count) longer

/-- Reads the word of a symbol; there is none if the bits are no word. -/
def read (code : PrefixCode) : Reader (Option Nat) := readFrom code.symbols 0 0 0 code.counts

end PrefixCode

end DocBuild.Deflate
