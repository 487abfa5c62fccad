import Mathlib.Data.Int.Range
import DocBuild.Pages.Range

/-!
# The pages that are kept

The pages are looked through one after the other. What was found before a page says which pages before it are kept:
the ranges, one after the other, list exactly these pages in ascending order, and between two ranges there is a page
that is deleted.
-/

namespace DocBuild.Pages

/-- Pages one after the other, up to one in between and from there on. -/
theorem range_append {a b c : Int} (hab : a ≤ b) (hbc : b ≤ c) : Int.range a b ++ Int.range b c = Int.range a c := by
  have hlength : (c - a).toNat = (b - a).toNat + (c - b).toNat := by omega
  simp only [Int.range, hlength, List.range_add, List.map_append, List.map_map]
  congr 1
  refine List.map_congr_left fun k _ => ?_
  simp only [Function.comp_apply]
  omega

/-- One more page behind the others. -/
theorem range_succ {a b : Int} (h : a ≤ b) : Int.range a (b + 1) = Int.range a b ++ [b] := by
  rw [← range_append h (by omega : b ≤ b + 1)]
  simp [Int.range]

/-- The pages of a range. -/
def span (r : Int × Int) : List Int := Int.range r.1 (r.2 + 1)

/-- The ranges that were found are those of the pages before `stop` that are not deleted. -/
structure KeptScan.Finds (deleted : List Int) (stop : Int) (scan : KeptScan) : Prop where
  /-- Each range that has ended is followed by a deleted page. -/
  ended : ∀ r ∈ scan.ended, 0 ≤ r.1 ∧ r.1 ≤ r.2 ∧ r.2 + 1 < stop ∧ r.2 + 1 ∈ deleted
  /-- The range that goes on begins behind all that have ended. -/
  first : ∀ first ∈ scan.first, 0 ≤ first ∧ first < stop ∧ ∀ r ∈ scan.ended, r.2 + 1 < first
  apart : scan.ended.Pairwise fun r r' => r.2 + 1 < r'.1
  pages : (scan.found stop).flatMap span = (Int.range 0 stop).filter (· ∉ deleted)

variable {deleted : List Int} {scan : KeptScan} {page : Int}

/-- A page to delete is left out. -/
theorem filter_range_succ_of_mem (hpage : 0 ≤ page) (h : page ∈ deleted) :
    (Int.range 0 (page + 1)).filter (· ∉ deleted) = (Int.range 0 page).filter (· ∉ deleted) := by
  simp [range_succ hpage, h]

/-- A page to keep stands behind the others. -/
theorem filter_range_succ_of_notMem (hpage : 0 ≤ page) (h : page ∉ deleted) :
    (Int.range 0 (page + 1)).filter (· ∉ deleted) = (Int.range 0 page).filter (· ∉ deleted) ++ [page] := by
  simp [range_succ hpage, h]

/-- Looking at one more page finds what there is before the page after it. -/
theorem KeptScan.Finds.next (h : scan.Finds deleted page) (hpage : 0 ≤ page) :
    (scan.next deleted page).Finds deleted (page + 1) := by
  have hpages := h.pages
  have hended : ∀ r ∈ scan.ended, 0 ≤ r.1 ∧ r.1 ≤ r.2 ∧ r.2 + 1 < page + 1 ∧ r.2 + 1 ∈ deleted := by
    intro r hr
    obtain ⟨hnonneg, hle, hlt, hmem⟩ := h.ended r hr
    exact ⟨hnonneg, hle, by omega, hmem⟩
  by_cases hdeleted : page ∈ deleted
  · cases hfirst : scan.first with
    | none =>
      have hnext : scan.next deleted page = scan := by simp [KeptScan.next, hdeleted, hfirst]
      rw [hnext]
      refine ⟨hended, by simp [hfirst], h.apart, ?_⟩
      rw [filter_range_succ_of_mem hpage hdeleted, ← hpages]
      simp [found, hfirst]
    | some first =>
      -- The range that goes on ends before the page.
      have hnext : scan.next deleted page = { ended := scan.ended ++ [(first, page - 1)] } := by
        simp [KeptScan.next, hdeleted, hfirst]
      obtain ⟨hnonneg, hlt, hbefore⟩ := h.first first hfirst
      rw [hnext]
      refine ⟨fun r hr => ?_, by simp, ?_, ?_⟩
      · rcases List.mem_append.mp hr with hr | hr
        · exact hended r hr
        · cases List.mem_singleton.mp hr
          simp only [Int.sub_add_cancel]
          exact ⟨hnonneg, by omega, by omega, hdeleted⟩
      · refine List.pairwise_append.mpr ⟨h.apart, List.pairwise_singleton _ _, fun r hr r' hr' => ?_⟩
        cases List.mem_singleton.mp hr'
        exact hbefore r hr
      · rw [filter_range_succ_of_mem hpage hdeleted, ← hpages]
        simp [found, hfirst]
  · cases hfirst : scan.first with
    | none =>
      -- A range begins with the page.
      have hnext : scan.next deleted page = { scan with first := some page } := by
        simp [KeptScan.next, hdeleted, hfirst]
      rw [hnext]
      refine ⟨hended, fun first hfirst => ?_, h.apart, ?_⟩
      · cases hfirst
        exact ⟨hpage, by omega, fun r hr => (h.ended r hr).2.2.1⟩
      · rw [filter_range_succ_of_notMem hpage hdeleted, ← hpages]
        simp [found, hfirst, span, Int.range]
    | some first =>
      have hnext : scan.next deleted page = scan := by simp [KeptScan.next, hdeleted, hfirst]
      obtain ⟨hnonneg, hlt, hbefore⟩ := h.first first hfirst
      rw [hnext]
      refine ⟨hended, fun first' hfirst' => ?_, h.apart, ?_⟩
      · cases hfirst.symm.trans hfirst'
        exact ⟨hnonneg, by omega, hbefore⟩
      · rw [filter_range_succ_of_notMem hpage hdeleted, ← hpages]
        simp [found, hfirst, span, range_succ (Int.le_of_lt hlt)]

end DocBuild.Pages
