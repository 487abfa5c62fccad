import DocBuild.Decimal.Limit

/-!
# The objects of a PDF

A PDF is cut at each `endobj`, so that every piece holds at most the body of one object. A piece is an
object if it has a header: a number and a generation, with white space after each, and the word `obj`.
All that stands before the header is dropped. An object that is defined again keeps its place among the
objects and gets the new body.
-/

namespace DocBuild.Pdf

/-- The white space of PDF syntax. -/
def isSpace (b : UInt8) : Bool :=
  b = 0x20 || b = 0x09 || b = 0x0D || b = 0x0A || b = 0x0C || b = 0x00

/-- A decimal digit. -/
def isDigit (b : UInt8) : Bool := 0x30 ≤ b.toNat && b.toNat ≤ 0x39

/-- A letter, a digit or an underscore. -/
def isWordByte (b : UInt8) : Bool :=
  isDigit b || (0x41 ≤ b.toNat && b.toNat ≤ 0x5A) || (0x61 ≤ b.toNat && b.toNat ≤ 0x7A) || b = 0x5F

/-- The word that closes an object. -/
def endObject : Bytes := "endobj"

/-- The word that opens an object. -/
def openObject : Bytes := "obj"

/-- The number that decimal digits denote. -/
def digitsValue (digits : Bytes) : Nat := digits.foldl (fun n b => 10 * n + (b.toNat - 0x30)) 0

/-- The number of a numeral, unless it is too long. -/
def numeral (digits : Bytes) : Except LongNumeral Nat :=
  if maxDigits < digits.length then .error ⟨digits.length⟩ else .ok (digitsValue digits)

/-- The pieces between the occurrences of `word`: `piece` holds in reverse what belongs to the present
one, `found` in reverse the ones before it, and the first `skip` octets belong to the word found last. -/
def cutOnto (word : Bytes) (found : List Bytes) (piece : Bytes) : Nat → Bytes → List Bytes
  | _, [] => (piece.reverse :: found).reverse
  | skip + 1, _ :: rest => cutOnto word found piece skip rest
  | 0, b :: rest =>
    if word.isPrefixOf (b :: rest) then cutOnto word (piece.reverse :: found) [] (word.length - 1) rest
    else cutOnto word found (b :: piece) 0 rest

/-- The pieces between the occurrences of `word`; there is one more piece than occurrences. -/
def cut (word data : Bytes) : List Bytes := cutOnto word [] [] 0 data

/-- The digits at the front of a piece, if there are any, and what follows the white space after them;
at least one octet of white space is needed. -/
def digitsThenSpace? (data : Bytes) : Option (Bytes × Bytes) :=
  let digits := data.takeWhile isDigit
  let rest := data.drop digits.length
  if digits.isEmpty || !rest.head?.any isSpace then none else some (digits, rest.dropWhile isSpace)

/-- The numerals of the header at the front of a piece, and the body after it. The word `obj` must not
run on. -/
def headerHere? (data : Bytes) : Option (Bytes × Bytes × Bytes) := do
  let (number, rest) ← digitsThenSpace? data
  let (generation, rest) ← digitsThenSpace? rest
  if openObject.isPrefixOf rest then
    let body := rest.drop openObject.length
    if body.head?.any isWordByte then none else some (number, generation, body)
  else none

/-- The first header in a piece. A header begins where a run of digits begins; `inDigits` says that the
octet before the present one is a digit. -/
def header? (inDigits : Bool) : Bytes → Option (Bytes × Bytes × Bytes)
  | [] => none
  | b :: rest =>
    if isDigit b && !inDigits then
      match headerHere? (b :: rest) with
      | some found => some found
      | none => header? true rest
    else header? (isDigit b) rest

/-- The number and the generation of an object. -/
structure ObjectId where
  number : Nat
  generation : Nat
deriving DecidableEq

/-- The bodies of objects, in the order in which the objects were first defined. -/
abbrev ObjectTable := List (ObjectId × Bytes)

namespace ObjectTable

/-- The body of an object. -/
def body? (id : ObjectId) (table : ObjectTable) : Option Bytes := table.lookup id

/-- Defines an object: in its place if it is there already, at the end otherwise. -/
def define (id : ObjectId) (body : Bytes) : ObjectTable → ObjectTable
  | [] => [(id, body)]
  | (i, old) :: rest => if i = id then (i, body) :: rest else (i, old) :: define id body rest

/-- Defines the object of a piece, if it is one. -/
def addPiece (table : ObjectTable) (piece : Bytes) : Except LongNumeral ObjectTable :=
  match header? false piece with
  | none => .ok table
  | some (number, generation, body) =>
    match numeral number, numeral generation with
    | .error e, _ => .error e
    | .ok _, .error e => .error e
    | .ok n, .ok g => .ok (table.define ⟨n, g⟩ body)

end ObjectTable

/-- The objects of a PDF. -/
def collect (data : Bytes) : Except LongNumeral ObjectTable :=
  (cut endObject data).foldlM ObjectTable.addPiece []

end DocBuild.Pdf
