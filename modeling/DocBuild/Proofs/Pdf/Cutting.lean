import Mathlib.Data.List.Infix
import DocBuild.Pdf.Objects

/-!
# Cutting at a word

A word that no end of itself begins cannot straddle its own occurrences. Such a word cuts what is joined by it into the
pieces of both sides, whatever stands there; data in which it does not occur are one piece. So every piece stands in the
data, and the word does not occur in it.
-/

namespace DocBuild.Pdf

variable {word : Bytes}

/-- No end of the word but the word itself begins it. -/
def Unbordered (word : Bytes) : Prop := ∀ n < word.length, 0 < n → ¬ word.drop n <+: word

/-- The word that closes an object is unbordered. -/
theorem unbordered_endObject : Unbordered endObject := by
  unfold Unbordered
  decide +kernel

/-- An unbordered word that begins before an occurrence of itself ends there as well. -/
theorem Unbordered.prefix_of_append (h : Unbordered word) {front rest : Bytes} (hfront : front ≠ [])
    (hword : word <+: front ++ (word ++ rest)) : word <+: front := by
  by_cases hlength : word.length ≤ front.length
  · exact List.prefix_of_prefix_length_le hword (List.prefix_append _ _) hlength
  · have hshort : front.length ≤ word.length := Nat.le_of_not_le hlength
    obtain ⟨back, rfl⟩ := List.prefix_of_prefix_length_le (List.prefix_append front _) hword hshort
    have hback : back <+: front ++ back ++ rest := (List.prefix_append_right_inj front).mp hword
    have hborder : back <+: front ++ back :=
      List.prefix_of_prefix_length_le hback (List.prefix_append _ _) (by simp)
    have hpos : 0 < front.length := List.length_pos_iff.mpr hfront
    refine absurd ?_ (h front.length (Nat.lt_of_not_le hlength) hpos)
    rwa [List.drop_left]

/-- What was found before does not matter for what is found next. -/
theorem cutOnto_append (found earlier : List Bytes) (piece : Bytes) (skip : Nat) (data : Bytes) :
    cutOnto word (found ++ earlier) piece skip data = earlier.reverse ++ cutOnto word found piece skip data := by
  induction data generalizing found piece skip with
  | nil => cases skip <;> simp [cutOnto]
  | cons b rest ih =>
    cases skip with
    | succ skip => exact ih found piece skip
    | zero =>
      simp only [cutOnto]
      split
      · exact ih (piece.reverse :: found) [] (word.length - 1)
      · exact ih found (b :: piece) 0

/-- The octets that belong to the word found last are passed over. -/
theorem cutOnto_skip (found : List Bytes) (piece front rest : Bytes) :
    cutOnto word found piece front.length (front ++ rest) = cutOnto word found piece 0 rest := by
  induction front with
  | nil => rfl
  | cons b front ih => exact ih

/-- At an occurrence of the word the present piece ends. -/
theorem cutOnto_word (hne : word ≠ []) (found : List Bytes) (piece rest : Bytes) :
    cutOnto word found piece 0 (word ++ rest) = cutOnto word (piece.reverse :: found) [] 0 rest := by
  obtain ⟨b, front, rfl⟩ := List.exists_cons_of_ne_nil hne
  have hprefix : (b :: front).isPrefixOf (b :: (front ++ rest)) = true :=
    List.isPrefixOf_iff_prefix.mpr (List.prefix_append (b :: front) rest)
  rw [List.cons_append, cutOnto, if_pos hprefix]
  exact cutOnto_skip _ _ front rest

/-- Behind an occurrence of an unbordered word the search goes on as if nothing stood before it. The octets to be passed
over lie in front of the occurrence. -/
theorem cutOnto_append_word (h : Unbordered word) (hne : word ≠ []) (found : List Bytes) (piece : Bytes) {skip : Nat}
    {front : Bytes} (hskip : skip ≤ front.length) (rest : Bytes) :
    cutOnto word found piece skip (front ++ (word ++ rest)) =
      cutOnto word (cutOnto word found piece skip front).reverse [] 0 rest := by
  induction front generalizing found piece skip with
  | nil =>
    obtain rfl : skip = 0 := Nat.le_zero.mp hskip
    rw [List.nil_append, cutOnto_word hne]
    simp [cutOnto]
  | cons b front ih =>
    cases skip with
    | succ skip => exact ih found piece (Nat.le_of_succ_le_succ hskip)
    | zero =>
      have hprefix : word.isPrefixOf (b :: (front ++ (word ++ rest))) = word.isPrefixOf (b :: front) := by
        rw [Bool.eq_iff_iff, List.isPrefixOf_iff_prefix, List.isPrefixOf_iff_prefix]
        refine ⟨h.prefix_of_append (List.cons_ne_nil b front), fun hword => ?_⟩
        exact hword.trans (List.prefix_append (b :: front) _)
      rw [List.cons_append, cutOnto, cutOnto, hprefix]
      split
      · next hword =>
        have hlength := (List.isPrefixOf_iff_prefix.mp hword).length_le
        refine ih _ _ ?_
        rw [List.length_cons] at hlength
        omega
      · exact ih _ _ (Nat.zero_le _)

/-- What is joined by an unbordered word is cut into the pieces of both sides. -/
theorem cut_append_word (h : Unbordered word) (hne : word ≠ []) (front rest : Bytes) :
    cut word (front ++ (word ++ rest)) = cut word front ++ cut word rest := by
  have hrest : cutOnto word (cut word front).reverse [] 0 rest = cut word front ++ cut word rest := by
    rw [← List.nil_append (cut word front).reverse, cutOnto_append, List.reverse_reverse]
    rfl
  exact (cutOnto_append_word h hne [] [] (Nat.zero_le _) rest).trans hrest

/-- Data in which the word does not occur are one piece. -/
theorem cut_eq_singleton {data : Bytes} (h : ¬ word <:+: data) : cut word data = [data] := by
  have hall (piece : Bytes) : cutOnto word [] piece 0 data = [piece.reverse ++ data] := by
    induction data generalizing piece with
    | nil => simp [cutOnto]
    | cons b rest ih =>
      have hprefix : ¬ word.isPrefixOf (b :: rest) = true := fun hword =>
        h (List.isPrefixOf_iff_prefix.mp hword).isInfix
      rw [cutOnto, if_neg hprefix, ih fun hrest => h (List.infix_cons hrest)]
      simp
  exact hall []

/-- A word that occurs in data has a first occurrence: it does not occur in what is before it. -/
theorem exists_first_of_infix (hne : word ≠ []) {data : Bytes} (h : word <:+: data) :
    ∃ front rest, data = front ++ (word ++ rest) ∧ ¬ word <:+: front := by
  induction data with
  | nil => exact absurd (List.infix_nil.mp h) hne
  | cons b data ih =>
    by_cases hhere : word <+: b :: data
    · obtain ⟨rest, hrest⟩ := hhere
      exact ⟨[], rest, hrest.symm, fun hempty => hne (List.infix_nil.mp hempty)⟩
    · obtain ⟨front, rest, rfl, hfront⟩ := ih ((List.infix_cons_iff.mp h).resolve_left hhere)
      refine ⟨b :: front, rest, rfl, fun hword => ?_⟩
      -- The word begins with none of the octets before its occurrence in the rest.
      rcases List.infix_cons_iff.mp hword with hword | hword
      · exact hhere (hword.trans (List.prefix_append (b :: front) _))
      · exact hfront hword

/-- Every piece between the occurrences of an unbordered word stands in the data, and the word does not occur in it. -/
theorem infix_of_mem_cut (h : Unbordered word) (hne : word ≠ []) {data piece : Bytes} (hpiece : piece ∈ cut word data) :
    piece <:+: data ∧ ¬ word <:+: piece := by
  induction hlength : data.length using Nat.strong_induction_on generalizing data with
  | _ length ih =>
    by_cases hword : word <:+: data
    · obtain ⟨front, rest, rfl, hfront⟩ := exists_first_of_infix hne hword
      rw [cut_append_word h hne, cut_eq_singleton hfront, List.singleton_append, List.mem_cons] at hpiece
      rcases hpiece with rfl | hpiece
      · exact ⟨(List.prefix_append _ _).isInfix, hfront⟩
      · have hshorter : rest.length < length := by
          have hpos := List.length_pos_iff.mpr hne
          rw [← hlength, List.length_append, List.length_append]
          omega
        obtain ⟨hin, hnot⟩ := ih rest.length hshorter hpiece rfl
        refine ⟨hin.trans ?_, hnot⟩
        exact (List.suffix_append_of_suffix (List.suffix_append word rest)).isInfix
    · rw [cut_eq_singleton hword, List.mem_singleton] at hpiece
      subst hpiece
      exact ⟨List.infix_rfl, hword⟩

end DocBuild.Pdf
