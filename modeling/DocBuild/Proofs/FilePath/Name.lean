import Mathlib.Logic.Basic
import DocBuild.FilePath

/-!
# The last name of a path

A text is split at a character into pieces without it. The last name of a path is the last of the pieces between slashes
that is a name; so it has no slash, and it is empty only if no piece is a name.
-/

namespace DocBuild

namespace Text

variable {c : CodePoint} {t piece : Text}

/-- A character goes to the front of the first piece, unless it is the one at which the text is split. -/
theorem splitAt_cons (c x : CodePoint) (t : Text) :
    splitAt c (x :: t) =
      if x = c then [] :: splitAt c t
      else match splitAt c t with
        | [] => [[x]]
        | piece :: rest => (x :: piece) :: rest := rfl

/-- No piece has the character at which the text is split. -/
theorem notMem_of_mem_splitAt (h : piece ∈ splitAt c t) : c ∉ piece := by
  induction t generalizing piece with
  | nil =>
    obtain rfl : piece = [] := List.mem_singleton.mp h
    exact List.not_mem_nil
  | cons x t ih =>
    rw [splitAt_cons] at h
    split at h
    · rcases List.mem_cons.mp h with rfl | h
      · exact List.not_mem_nil
      · exact ih h
    · next hne =>
      split at h
      · obtain rfl : piece = [x] := List.mem_singleton.mp h
        simpa using Ne.symm hne
      · next first rest hsplit =>
        rw [hsplit] at ih
        rcases List.mem_cons.mp h with rfl | h
        · exact List.not_mem_cons_of_ne_of_not_mem (Ne.symm hne) (ih List.mem_cons_self)
        · exact ih (List.mem_cons_of_mem _ h)

/-- A text without the character at which it is split is one piece. -/
theorem splitAt_of_notMem (h : c ∉ t) : splitAt c t = [t] := by
  induction t with
  | nil => rfl
  | cons x t ih =>
    obtain ⟨hne, ht⟩ := List.ne_and_not_mem_of_not_mem_cons h
    rw [splitAt_cons, if_neg (Ne.symm hne), ih ht]

end Text

namespace FilePath

variable {t name : Text}

/-- A piece between slashes is a name exactly if it is neither empty nor a point. -/
theorem isName_iff {piece : Text} : isName piece = true ↔ piece ≠ [] ∧ piece ≠ "." := by
  simp [isName]

/-- The path that a text stands for has no last name exactly if nothing between its slashes is a name. -/
theorem name_ofText_eq_nil_iff {t : Text} :
    (ofText t).name = [] ↔ ∀ piece ∈ Text.splitAt slash t, piece = [] ∨ piece = "." := by
  have hpieces : (Text.splitAt slash t).filter isName = [] ↔
      ∀ piece ∈ Text.splitAt slash t, piece = [] ∨ piece = "." := by
    simp only [List.filter_eq_nil_iff, isName_iff, ne_eq, not_and_or, not_not]
  rw [← hpieces]
  change ((Text.splitAt slash t).filter isName).getLast?.getD [] = [] ↔ _
  cases hlast : ((Text.splitAt slash t).filter isName).getLast? with
  | none => exact iff_of_true rfl (List.getLast?_eq_none_iff.mp hlast)
  | some last =>
    have hin := List.mem_of_getLast? hlast
    have hname := isName_iff.mp (List.mem_filter.mp hin).2
    exact iff_of_false hname.1 (List.ne_nil_of_mem hin)

/-- The last name of the path that a text stands for is a piece between slashes that is a name, or empty. -/
theorem name_ofText_mem (t : Text) :
    (ofText t).name = [] ∨ (ofText t).name ∈ Text.splitAt slash t ∧ isName (ofText t).name = true := by
  change ((Text.splitAt slash t).filter isName).getLast?.getD [] = [] ∨ _
  cases hlast : ((Text.splitAt slash t).filter isName).getLast? with
  | none => exact Or.inl rfl
  | some last =>
    have hname : (ofText t).name = last := congrArg (Option.getD · []) hlast
    rw [hname]
    exact Or.inr (List.mem_filter.mp (List.mem_of_getLast? hlast))

/-- A name without a slash is the last name of the path that consists of it behind a slash. -/
theorem name_ofText_slash_cons (hname : isName name = true) (hslash : slash ∉ name) :
    (ofText (slash :: name)).name = name := by
  have hempty : isName [] = false := rfl
  unfold FilePath.name ofText
  rw [Text.splitAt_cons, if_pos rfl, Text.splitAt_of_notMem hslash]
  simp [hname, hempty]

end FilePath

end DocBuild
