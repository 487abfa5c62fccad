import DocBuild.Fault

/-!
# Pages by index

A page is addressed by its index from the front, or by a negative index from the end: in a document of
`n` pages the index `i < 0` means the page `n + i`. A range of pages includes both ends. Any number can be
given as an index and is looked at only for its place among the pages; what is no number cannot be compared
with the page count and is a foreign error.
-/

namespace DocBuild

/-- A range of page indices, both ends included; the default is the whole document. -/
structure PageRange where
  start : Json := .int 0
  stop : Json := .int (-1)

/-- The range as a record. -/
def PageRange.toJson (r : PageRange) : Json := .obj [("start", r.start), ("end", r.stop)]

namespace Pages

/-- Why an index or a range addresses no pages. -/
inductive Misfit where
  | index (index count : Json)
  | rangeStart (range : PageRange) (count : Json)
  | rangeEnd (range : PageRange) (count : Json)
  | reversed (range : PageRange) (count : Json)

namespace Misfit

/-- The end of a message about a bound. -/
def bound (count : Json) : Text :=
  " is out of bounds for a document with " ++ count.display ++ " pages"

/-- The words for a misfit. -/
def message : Misfit → Text
  | index i n => "Page index " ++ i.display ++ bound n
  | rangeStart r n => "Page range start " ++ r.start.display ++ bound n
  | rangeEnd r n => "Page range end " ++ r.stop.display ++ bound n
  | reversed r _ => "Page range start " ++ r.start.display ++ " is after end " ++ r.stop.display

/-- What was asked for, and the page count. -/
def details : Misfit → Members
  | index i n => [("index", i), ("page_count", n)]
  | rangeStart r n | rangeEnd r n | reversed r n => [("range", r.toJson), ("page_count", n)]

/-- A misfit is an error of the caller. -/
def toFault (m : Misfit) : Fault := .validation m.message (some m.details)

end Misfit

/-- A number that a value has to be; a value that is none is a foreign error. -/
def numberOf (value : Json) : Except Fault Number := value.number.mapError .foreign

/-- The index from the front that an index means. -/
def absolute (count index : Json) : Except Fault Number := do
  let i ← numberOf index
  if i.less (.int 0) then ((← numberOf count).plus i).mapError .foreign else return i

/-- Whether an index from the front is that of a page. A negative one is none in any document. -/
def isPage (count : Json) (i : Number) : Except Fault Bool := do
  if (Number.int 0).atMost i then return i.less (← numberOf count) else return false

/-- The page that an index means. -/
def resolveIndex (index count : Json) : Except Fault Number := do
  let i ← absolute count index
  if ← isPage count i then return i else throw (Misfit.index index count).toFault

/-- The first and the last page that a range means. -/
def resolveRange (range : PageRange) (count : Json) : Except Fault (Number × Number) := do
  let first ← absolute count range.start
  let last ← absolute count range.stop
  if !(← isPage count first) then throw (Misfit.rangeStart range count).toFault
  if !(← isPage count last) then throw (Misfit.rangeEnd range count).toFault
  if last.less first then throw (Misfit.reversed range count).toFault
  return (first, last)

/-- How far the pages have been looked through: the ranges of pages to keep that have ended, and the first page
of the one that goes on, if one does. -/
structure KeptScan where
  ended : List (Int × Int) := []
  first : Option Int := none

namespace KeptScan

/-- Looks at one more page. A page to delete ends the range that goes on, and a page to keep begins one if none
does. -/
def next (deleted : List Int) (page : Int) (scan : KeptScan) : KeptScan :=
  match decide (page ∈ deleted), scan.first with
  | true, some first => { ended := scan.ended ++ [(first, page - 1)] }
  | true, none => scan
  | false, some _ => scan
  | false, none => { scan with first := some page }

/-- The ranges found before page `stop`, which ends the one that goes on. -/
def found (scan : KeptScan) (stop : Int) : List (Int × Int) :=
  match scan.first with
  | some first => scan.ended ++ [(first, stop - 1)]
  | none => scan.ended

end KeptScan

/-- Looks through the first pages of a document. -/
def keptScan (deleted : List Int) (count : Nat) : KeptScan :=
  count.fold (fun page _ scan => scan.next deleted page) {}

/-- The ranges of the pages that are not deleted, in ascending order and each as long as possible. Pages
that are not in the document are ignored. -/
def keptRanges (deleted : List Int) (count : Int) : List (Int × Int) :=
  (keptScan deleted count.toNat).found count

example : keptRanges [4, 1, 1] 6 = [(0, 0), (2, 3), (5, 5)] := by decide

/-- The number of pages that a value is; a truth value counts as zero or one. -/
def countOf : Json → Except ForeignError Int
  | .int n => .ok n
  | .bool b => .ok (if b then 1 else 0)
  | value => .error (.notWhole value.kindName)

/-- The page that a member of a set amounts to, if it does to one. Lists and mappings are in no set. -/
def memberOf (value : Json) : Except ForeignError (Option Int) :=
  match value with
  | .arr _ | .obj _ | .table _ => .error (.notKey value.kindName)
  | value => .ok (value.number?.bind Number.whole?)

/-- The ranges of the pages that are not among the items of a value. -/
def keptRangesOf (deleted count : Json) : Except ForeignError (List (Int × Int)) := do
  let members ← (← deleted.items).mapM memberOf
  return keptRanges (members.filterMap id) (← countOf count)

/-- The index from the front that a whole number means. -/
def absoluteInt (count i : Int) : Int := if i < 0 then count + i else i

theorem numberOf_int (n : Int) : numberOf (.int n) = .ok (.int n) := rfl

theorem sum_int (n i : Int) :
    ((Number.int n).plus (.int i)).mapError Fault.foreign = .ok (.int (n + i)) := by
  rw [Number.plus_int]
  rfl

theorem absolute_int (n i : Int) : absolute (.int n) (.int i) = .ok (.int (absoluteInt n i)) := by
  by_cases h : i < 0 <;>
    simp [absolute, absoluteInt, numberOf_int, sum_int, Number.less_int, bind, Except.bind, pure,
      Except.pure, h]

theorem isPage_int (n i : Int) : isPage (.int n) (.int i) = .ok (decide (0 ≤ i ∧ i < n)) := by
  by_cases h : 0 ≤ i <;>
    simp [isPage, numberOf_int, Number.atMost_int, Number.less_int, bind, Except.bind, pure, Except.pure, h]

end Pages

end DocBuild
