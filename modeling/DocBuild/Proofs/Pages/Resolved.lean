import Mathlib.Data.Finset.Card
import DocBuild.Pages.Range

/-!
# The pages that indices mean

Indices are resolved one after the other, up to the first that means no page. The pages that they mean are counted
as a set: pages that are meant twice count once. A range is resolved if both of its ends mean pages, the first one
not behind the last.
-/

namespace DocBuild

section MapM

variable {α β : Type} {f : α → Except Fault β} {items : List α}

/-- Items that all give a value give all values. -/
theorem exists_mapM_eq_ok {R : α → β → Prop} (h : ∀ item ∈ items, ∃ value, f item = .ok value ∧ R item value) :
    ∃ values, items.mapM f = .ok values ∧ List.Forall₂ R items values := by
  induction items with
  | nil => exact ⟨[], rfl, .nil⟩
  | cons item rest ih =>
    obtain ⟨value, hvalue, hrelated⟩ := h item List.mem_cons_self
    obtain ⟨values, hrest, hall⟩ := ih fun other hother => h other (List.mem_cons_of_mem _ hother)
    refine ⟨value :: values, ?_, .cons hrelated hall⟩
    rw [List.mapM_cons, hvalue, hrest]
    rfl

/-- Items that give known values give these. -/
theorem mapM_eq_ok {g : α → β} (h : ∀ item ∈ items, f item = .ok (g item)) : items.mapM f = .ok (items.map g) := by
  obtain ⟨values, hall, hvalues⟩ := exists_mapM_eq_ok (R := fun item value => value = g item) fun item hitem =>
    ⟨g item, h item hitem, rfl⟩
  have heq : items.map g = values :=
    List.forall₂_eq_eq_eq ▸ List.forall₂_map_left_iff.mpr (hvalues.imp fun _ _ => Eq.symm)
  rw [hall, heq]

/-- If all items give values, each value is that of an item. -/
theorem exists_of_mem_mapM {values : List β} (h : items.mapM f = .ok values) :
    ∀ value ∈ values, ∃ item ∈ items, f item = .ok value := by
  induction items generalizing values with
  | nil =>
    cases h
    simp
  | cons item rest ih =>
    rw [List.mapM_cons] at h
    cases hitem : f item with
    | error fault =>
      rw [hitem] at h
      contradiction
    | ok value =>
      cases hrest : rest.mapM f with
      | error fault =>
        rw [hitem, hrest] at h
        contradiction
      | ok others =>
        rw [hitem, hrest] at h
        cases h
        refine List.forall_mem_cons.mpr ⟨⟨item, List.mem_cons_self, hitem⟩, fun other hother => ?_⟩
        obtain ⟨found, hfound, heq⟩ := ih hrest other hother
        exact ⟨found, List.mem_cons_of_mem _ hfound, heq⟩

end MapM

namespace Pages

/-- An index means a page exactly if it lies between the number of pages counted from the end and the last page. -/
theorem isPage_absoluteInt_iff (count : Nat) (index : Int) :
    0 ≤ absoluteInt count index ∧ absoluteInt count index < count ↔ -count ≤ index ∧ index < count := by
  unfold absoluteInt
  split <;> omega

/-- A range whose ends mean pages, the first not behind the last, is resolved to these. -/
theorem resolveRange_int {count : Nat} {start stop : Int}
    (h : 0 ≤ absoluteInt count start ∧ absoluteInt count start ≤ absoluteInt count stop ∧
      absoluteInt count stop < count) :
    resolveRange ⟨.int start, .int stop⟩ (.int count) =
      .ok (.int (absoluteInt count start), .int (absoluteInt count stop)) := by
  have hfirst : 0 ≤ absoluteInt count start ∧ absoluteInt count start < count := by omega
  have hlast : 0 ≤ absoluteInt count stop ∧ absoluteInt count stop < count := by omega
  have horder : ¬ absoluteInt count stop < absoluteInt count start := by omega
  simp [resolveRange, absolute_int, isPage_int, hfirst, hlast, Number.less_int, horder, bind, Except.bind, pure,
    Except.pure]

/-- A range means pages of a document: its bounds are indices of pages, counted from the end if they are negative, and
the first page is not behind the last. -/
def Resolvable (count : Nat) (range : Int × Int) : Prop :=
  (-count ≤ range.1 ∧ range.1 < count) ∧ (-count ≤ range.2 ∧ range.2 < count) ∧
    absoluteInt count range.1 ≤ absoluteInt count range.2

instance {count : Nat} {range : Int × Int} : Decidable (Resolvable count range) := inferInstanceAs (Decidable (_ ∧ _))

/-- A range with whole numbers as its bounds. -/
def intRange (range : Int × Int) : PageRange := ⟨.int range.1, .int range.2⟩

/-- A range means pages exactly if these are pages in order. -/
theorem resolvable_iff {count : Nat} {range : Int × Int} :
    Resolvable count range ↔ 0 ≤ absoluteInt count range.1 ∧ absoluteInt count range.1 ≤ absoluteInt count range.2 ∧
      absoluteInt count range.2 < count := by
  unfold Resolvable
  rw [← isPage_absoluteInt_iff, ← isPage_absoluteInt_iff]
  omega

/-- Ranges that mean pages are resolved to these. -/
theorem mapM_resolveRange {count : Nat} {ranges : List (Int × Int)} (h : ∀ range ∈ ranges, Resolvable count range) :
    (ranges.map intRange).mapM (fun range => resolveRange range (.int count)) =
      .ok (ranges.map fun range => (.int (absoluteInt count range.1), .int (absoluteInt count range.2))) := by
  rw [List.mapM_map]
  exact mapM_eq_ok fun range hrange => resolveRange_int (resolvable_iff.mp (h range hrange))

end Pages

namespace Number

/-- A whole number amounts to itself. -/
@[simp] theorem whole?_int (n : Int) : (int n).whole? = some n := by
  simp [whole?, amount]

end Number

end DocBuild
