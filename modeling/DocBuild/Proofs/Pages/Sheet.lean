import DocBuild.Proofs.Build.Reading
import DocBuild.Proofs.Pages.Kept

/-!
# Parts as pages

The parts of a build over a source of `n` pages, read as the pages of the document that is built: a part with a range
of pages stands for these pages, one without a range for all pages of the source, and blank pages for themselves.
A range that is empty or leaves the source is not read. What is done to a part is done to each of its pages.
-/

namespace DocBuild

/-- A page of a document that is built. -/
inductive Sheet where
  /-- The page of the source with an index. -/
  | page (index : Int)
  | blank
deriving DecidableEq

/-- The pages of the source from `first` up to, but not including, `stop`. -/
def Sheet.pages (first stop : Int) : List Sheet := (Int.range first stop).map page

/-- There are no pages from a page up to itself. -/
@[simp] theorem Sheet.pages_self (page : Int) : pages page page = [] := by
  simp [pages, Int.range]

/-- A range is not empty and lies in a source of `count` pages. -/
def PageRange.Fits (range : PageRange) (count : Nat) : Prop :=
  ∃ first last : Int, range = ⟨.int first, .int last⟩ ∧ 0 ≤ first ∧ first ≤ last ∧ last < count

variable {input : FileInput} {count : Nat}

end DocBuild
