import DocBuild.Pdf.Objects
import DocBuild.Fault

/-!
# The page count of a PDF

The page count is what the root of the page tree declares: the first object that mentions both `/Type`
and `/Catalog` refers to the root of the page tree by `/Pages`, and that object declares its `/Count`.
Compressed objects and encryption are not supported.
-/

namespace DocBuild.Pdf

/-- Why the page count of a PDF is not known. -/
inductive CountError where
  | noObjects
  | noCatalog
  | noReference
  | noPages (id : ObjectId)
  | noCount
  | longNumeral (numeral : LongNumeral)
deriving DecidableEq

namespace CountError

/-- The words for a missing link from the catalog to the page count. -/
def message : CountError → Text
  | noObjects => "Could not find any objects in PDF"
  | noCatalog => "Could not find /Catalog object in PDF"
  | noReference => "Could not find /Pages reference in /Catalog"
  | noPages _ => "Could not find root /Pages object"
  | noCount => "Could not find /Count in root /Pages object"
  | longNumeral n => n.message

/-- The fault that a missing link in the named file is. A numeral that is too long is a foreign error. -/
def toFault (filename : Json) (e : CountError) : Fault :=
  let file : Members := [("filename", filename)]
  match e with
  | longNumeral _ => .ofForeign .value e.message
  | noPages id =>
    let reference : Text := Text.ofNat id.number ++ " " ++ Text.ofNat id.generation ++ " R"
    .validation e.message (some (file.set "object" (.str reference)))
  | _ => .validation e.message (some file)

end CountError

/-- Whether `word` occurs in `data`. -/
def mentions (word : Bytes) : Bytes → Bool
  | [] => word.isEmpty
  | b :: rest => word.isPrefixOf (b :: rest) || mentions word rest

/-- What `read` makes of the data after the first occurrence of `word` at which it succeeds. -/
def afterWord? {α : Type} (word : Bytes) (read : Bytes → Option α) : Bytes → Option α
  | [] => none
  | b :: rest =>
    if word.isPrefixOf (b :: rest) then
      match read ((b :: rest).drop word.length) with
      | some found => some found
      | none => afterWord? word read rest
    else afterWord? word read rest

/-- The numerals of a reference: a number, a generation and the letter `R`. -/
def reference? (data : Bytes) : Option (Bytes × Bytes) := do
  let (number, rest) ← digitsThenSpace? (data.dropWhile isSpace)
  let (generation, rest) ← digitsThenSpace? rest
  if rest.head? = some 0x52 then some (number, generation) else none

/-- The digits after white space. -/
def spaceThenDigits? (data : Bytes) : Option Bytes :=
  let digits := (data.dropWhile isSpace).takeWhile isDigit
  if digits.isEmpty || !data.head?.any isSpace then none else some digits

/-- The catalog is the first object that mentions both `/Type` and `/Catalog`. -/
def catalog? (table : ObjectTable) : Option Bytes :=
  (table.find? fun entry => mentions "/Type" entry.2 && mentions "/Catalog" entry.2).map Prod.snd

/-- The page count of a table of objects. -/
def countIn (table : ObjectTable) : Except CountError Nat := do
  if table.isEmpty then throw .noObjects
  let some catalog := catalog? table | throw .noCatalog
  let some (number, generation) := afterWord? "/Pages" reference? catalog | throw .noReference
  let number ← (numeral number).mapError .longNumeral
  let generation ← (numeral generation).mapError .longNumeral
  let some pages := table.body? ⟨number, generation⟩ | throw (.noPages ⟨number, generation⟩)
  let some count := afterWord? "/Count" spaceThenDigits? pages | throw .noCount
  (numeral count).mapError .longNumeral

/-- The page count that a PDF declares. -/
def pageCount (data : Bytes) : Except CountError Nat :=
  match collect data with
  | .error e => .error (.longNumeral e)
  | .ok table => countIn table

/-- The page count of the named file. -/
def countPages (data : Bytes) (filename : Json) : Except Fault Nat :=
  (pageCount data).mapError (CountError.toFault filename)

end DocBuild.Pdf
