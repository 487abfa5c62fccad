import DocBuild.Proofs.Client.Loading
import DocBuild.Proofs.Client.SideBySide
import DocBuild.Proofs.Pages.Resolved

/-!
# Splitting

A document is split into ranges of its pages, one request for each, side by side. Whatever order the requests go in and
whatever comes of them, all are sent, and each belongs to the range of its place. The documents come out in the order
of the ranges; if some could not be made, one error tells which, in the same order. If some range means no pages,
nothing is sent.
-/

namespace DocBuild

open Run

namespace Client

variable {c : Client} {file : FileInput} {around : Surroundings} {session loaded : Session} {source : Source}
  {ranges : List PageRange} {outcomes : List (Outcome Product)}

/-- The failures of a split are those of the outcomes without success, each with the range of its place. -/
theorem mem_splitFailures {place : Nat} {range : PageRange} {error : ClientError} :
    (place, range, error) ∈ splitFailures ranges outcomes ↔ ∃ outcome, ranges[place]? = some range ∧
      outcomes[place]? = some outcome ∧ outcome.succeeded = false ∧ outcome.firstError = error := by
  unfold splitFailures
  rw [List.mem_filterMap]
  constructor
  · rintro ⟨⟨⟨range', outcome⟩, place'⟩, hmem, hfailure⟩
    rw [List.mem_zipIdx_iff_getElem?, List.getElem?_zip_eq_some] at hmem
    split at hfailure
    · contradiction
    · next hfailed =>
      cases hfailure
      exact ⟨outcome, hmem.1, hmem.2, by simpa using hfailed, rfl⟩
  · rintro ⟨outcome, hrange, houtcome, hfailed, rfl⟩
    refine ⟨((range, outcome), place), ?_, ?_⟩
    · rw [List.mem_zipIdx_iff_getElem?, List.getElem?_zip_eq_some]
      exact ⟨hrange, houtcome⟩
    · simp [hfailed]

end Client

end DocBuild
