import DocBuild.Client

/-!
# Operations on pages

Operations that address pages by index read the source once, count its pages and then refer to the pages of
what was read. An index that fits no page is refused before anything is sent.
-/

namespace DocBuild.Client

/-- A source that was read, with its page count. -/
structure Source where
  data : Bytes
  filename : Json
  contentType : Json
  pageCount : Nat

namespace Source

/-- The source as a file input. -/
def input (s : Source) : FileInput := .buffer s.data s.filename s.contentType

/-- The number of pages as a value. -/
def count (s : Source) : Json := .int s.pageCount

/-- The part that consists of the pages from `first` to `last`. -/
def pages (s : Source) (first last : Number) : Part := .ofPages s.input first.toJson last.toJson

/-- The index of the last page. -/
def lastPage (s : Source) : Number := .int (s.pageCount - 1)

/-- All pages of the source. -/
def whole (s : Source) : Part := .ofFile s.input

end Source

/-- Reads a source and counts its pages. -/
def load (c : Client) (file : FileInput) : Run Source := do
  let payload ← Payload.obtain c.connection file
  let (pageCount, payload) ← payload.countPages
  let (data, payload) ← payload.read
  Run.log .debug (payload.filename.display ++ " has " ++ Text.ofNat pageCount ++ " pages") []
  return ⟨data, payload.filename, payload.contentType, pageCount⟩

/-- The parts of a source of which the pages from `first` to `last` get an action. -/
def rotatedParts (s : Source) (first last : Number) (action : Action) : List Part :=
  let before := if (Number.int 0).less first then [s.pages (.int 0) first.previous] else []
  let after := if last.less s.lastPage then [s.pages last.next s.lastPage] else []
  before ++ [(s.pages first last).withActions [action]] ++ after

/-- Rotates a file, or some of its pages. -/
def rotate (c : Client) (file : FileInput) (angle : Json) (range : Option PageRange) :
    Run Document := do
  let action ← Run.ofExcept ((Action.rotate angle).mapError ActionError.toFault)
  match range with
  | none => c.buildPdf [(Part.ofFile file).withActions [action]] []
  | some range =>
    let source ← c.load file
    let (first, last) ← Run.ofExcept (Pages.resolveRange range source.count)
    c.buildPdf (rotatedParts source first last action) []

/-- The fault of a place between pages that there is not. -/
def noSuchPlace (index count : Json) : Fault :=
  .validation
    ("Index " ++ index.display ++ " is out of bounds for a document with " ++ count.display ++ " pages")
    (some [("index", index), ("page_count", count)])

/-- The parts of a source with blank pages before the page with an index. -/
def insertedParts (s : Source) (count : Json) (index : Number) : List Part :=
  if index.same (.int 0) then [.blank count, s.whole]
  else if index.same (.int s.pageCount) then [s.whole, .blank count]
  else [s.pages (.int 0) index.previous, .blank count, s.pages index s.lastPage]

/-- Inserts blank pages before the page with an index, or at the end if the index is null. -/
def addPage (c : Client) (file : FileInput) (count index : Json) : Run Document := do
  if (← Run.ofExcept (Pages.numberOf count)).less (.int 1) then
    throw (.validation "Page count must be at least 1" (some [("count", count)]))
  if index.isNull then c.buildPdf [.ofFile file, .blank count] []
  else
    let source ← c.load file
    let place ← Run.ofExcept (Pages.numberOf index)
    if place.less (.int 0) || (Number.int source.pageCount).less place then
      throw (noSuchPlace index source.count)
    c.buildPdf (insertedParts source count place) []

/-- Does `f` to each item of a list in order. -/
def each {α β : Type} (f : α → Run β) : List α → Run (List β)
  | [] => pure []
  | a :: rest => do
    let b ← f a
    return b :: (← each f rest)

/-- The record of a range whose document could not be made. -/
def splitFailure (index : Nat) (range : PageRange) (error : ClientError) : Json :=
  .obj [("range_index", .int index), ("range", range.toJson), ("error", .str error.text)]

/-- The failures among the outcomes of a split, with the places and the ranges they belong to. -/
def splitFailures (ranges : List PageRange) (outcomes : List (Outcome Product)) :
    List (Nat × PageRange × ClientError) :=
  (ranges.zip outcomes).zipIdx.filterMap fun entry =>
    if entry.1.2.succeeded then none else some (entry.2, entry.1.1, entry.1.2.firstError)

/-- The error of a split of which some documents could not be made. -/
def splitError (count : Nat) (failures : List (Nat × PageRange × ClientError)) : ClientError :=
  .general
    (Text.ofNat failures.length ++ " of " ++ Text.ofNat count ++ " split ranges failed")
    "SPLIT_ERROR"
    (some [("failures", .arr (failures.map fun f => splitFailure f.1 f.2.1 f.2.2))])
    none (failures.head?.map fun f => .client f.2.2)

/-- Makes one document for each page range, side by side. -/
def split (c : Client) (file : FileInput) (ranges : List PageRange) : Run (List Document) := do
  if ranges.isEmpty then
    throw (.validation "At least one page range is required for splitting" none)
  let source ← c.load file
  let spans ← each (fun range => Run.ofExcept (Pages.resolveRange range source.count)) ranges
  let executions ← each
    (fun span => Run.ofExcept (c.execution [source.pages span.1 span.2] [] (Output.pdf {}))) spans
  Run.log .info
    ("Splitting " ++ Text.ofNat source.pageCount ++ "-page document into " ++
      Text.ofNat executions.length ++ " range(s)")
    [("page_count", .int source.pageCount), ("ranges", .int executions.length)]
  let outcomes ← Execution.runAll executions
  match splitFailures ranges outcomes with
  | [] => each (fun outcome => Run.ofExcept (expectBinary outcome.result)) outcomes
  | failures => throw (.client (splitError outcomes.length failures))

/-- The fault of an empty list of pages. -/
def noIndex : Fault := .validation "At least one page index is required" none

/-- The pages that a list of indices means. -/
def resolveIndices (count indices : Json) : Run (List Number) := do
  let indices ← Run.ofExcept (indices.items.mapError .foreign)
  each (fun index => Run.ofExcept (Pages.resolveIndex index count)) indices

/-- Puts the pages with the given indices one after the other. -/
def duplicatePages (c : Client) (file : FileInput) (indices : Json) : Run Document := do
  if !indices.isGiven then throw noIndex
  let source ← c.load file
  let pages ← resolveIndices source.count indices
  c.buildPdf (pages.map fun page => source.pages page page) []

/-- The parts of a source without the given pages; at least one page must remain. A place between two pages is no
page, but counts among the deleted ones. -/
def keptParts (s : Source) (pages : List Number) : Except Fault (List Part) := do
  let deleted := Number.distinct pages
  if deleted.length = s.pageCount then
    throw (.validation "Cannot delete all pages of a document" (some [("page_count", s.count)]))
  let kept := Pages.keptRanges (deleted.filterMap Number.whole?) s.pageCount
  if kept.isEmpty then throw (.ofForeign .index "list index out of range")
  return kept.map fun r => s.pages (.int r.1) (.int r.2)

/-- Removes the pages with the given indices. -/
def deletePages (c : Client) (file : FileInput) (indices : Json) : Run Document := do
  if !indices.isGiven then throw noIndex
  let source ← c.load file
  let parts ← Run.ofExcept (keptParts source (← resolveIndices source.count indices))
  c.buildPdf parts []

end DocBuild.Client
