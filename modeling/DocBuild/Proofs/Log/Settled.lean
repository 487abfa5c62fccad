import Mathlib.Data.List.Chain
import Mathlib.Data.List.Infix
import DocBuild.Proofs.Log.Masking

/-!
# What masking settles

The mask does not end in `Bearer`, so it announces nothing; and whatever stands behind a word that does and that was
kept is a token. So in a masked text nothing but the mask stands behind `Bearer` and blanks. A text of this kind is left
as it is: masking it again changes nothing, and neither does masking a text without tokens. All that masking does to any
text is to put the mask in place of some of its words.
-/

namespace DocBuild.Log

variable {c : CodePoint} {t w r : Text}

/-- Nothing but the mask stands behind `Bearer` and blanks. -/
def Settled (t : Text) : Prop :=
  ∀ before blanks run after : Text, t = before ++ (bearer ++ (blanks ++ (run ++ after))) → blanks ≠ [] →
    (∀ c ∈ blanks, c.isBlank = true) → run.IsWord → after.Detached → run = mask

/-- Nothing but blanks stands behind `Bearer` and blanks. -/
def Tokenless (t : Text) : Prop :=
  ∀ (before blanks : Text) (c : CodePoint) (after : Text), t = before ++ (bearer ++ (blanks ++ c :: after)) →
    blanks ≠ [] → (∀ b ∈ blanks, b.isBlank = true) → c.isBlank = true

/-- A text and the same text with the mask in place of some of its words. -/
inductive Masks : Text → Text → Prop
  | nil : Masks [] []
  | blank {c : CodePoint} {t u : Text} (hc : c.isBlank = true) (h : Masks t u) : Masks (c :: t) (c :: u)
  | kept {w t u : Text} (hw : w.IsWord) (ht : t.Detached) (h : Masks t u) : Masks (w ++ t) (w ++ u)
  | masked {w t u : Text} (hw : w.IsWord) (ht : t.Detached) (h : Masks t u) : Masks (w ++ t) (mask ++ u)

/-- Words masked behind others, if the first of them is a token there or not. -/
def maskWords : Bool → List Text → List Text
  | _, [] => []
  | opened, w :: rest => (if opened then mask else w) :: maskWords (!opened && announces w) rest

section Words

/-- The mask is a word. -/
theorem isWord_mask : mask.IsWord := ⟨by decide, by decide⟩

/-- Blanks in front of a text belong to no word. -/
theorem words_blanks_append {blanks : Text} (hblanks : ∀ c ∈ blanks, c.isBlank = true) (t : Text) :
    Text.words (blanks ++ t) = t.words := by
  induction blanks with
  | nil => rfl
  | cons c rest ih =>
    rw [List.forall_mem_cons] at hblanks
    rw [List.cons_append, Text.words_blank_cons hblanks.1, ih hblanks.2]

/-- The last word of a text that ends in `Bearer` ends in it. -/
theorem exists_words_append_bearer (before : Text) :
    ∃ front w, Text.words (before ++ bearer) = front ++ [w] ∧ announces w = true := by
  induction before using Text.induction_on_words with
  | nil => exact ⟨[], bearer, Text.words_word isWord_bearer, by decide⟩
  | blank c t hc ih =>
    obtain ⟨front, w, hwords, hw⟩ := ih
    exact ⟨front, w, by rw [List.cons_append, Text.words_blank_cons hc, hwords], hw⟩
  | word v t hv ht ih =>
    cases t with
    | nil =>
      have hword : Text.IsWord (v ++ bearer) :=
        ⟨List.append_ne_nil_of_left_ne_nil hv.ne_nil _,
          List.forall_mem_append.mpr ⟨hv.solid, isWord_bearer.solid⟩⟩
      refine ⟨[], v ++ bearer, ?_, List.isSuffixOf_iff_suffix.mpr (List.suffix_append v bearer)⟩
      rw [List.append_nil, Text.words_word hword, List.nil_append]
    | cons c rest =>
      obtain ⟨front, w, hwords, hw⟩ := ih
      have hdetached : Text.Detached (c :: rest ++ bearer) := Text.detached_cons (ht c rfl)
      refine ⟨v :: front, w, ?_, hw⟩
      rw [List.append_assoc, Text.words_word_append hv hdetached, hwords, List.cons_append]

/-- The words of a masked text are the masked words. -/
theorem words_redactAfter (opened : Bool) (t : Text) : (redactAfter opened t).words = maskWords opened t.words := by
  induction t using Text.induction_on_words generalizing opened with
  | nil => rw [redactAfter_nil, Text.words_nil, maskWords]
  | blank c t hc ih => rw [redactAfter_blank opened hc, Text.words_blank_cons hc, Text.words_blank_cons hc, ih]
  | word w t hw ht ih =>
    have hshown : Text.IsWord (if opened then mask else w) := by
      cases opened
      · exact hw
      · exact isWord_mask
    rw [redactAfter_word opened hw ht, Text.words_word_append hshown (detached_redactAfter _ ht), ih,
      Text.words_word_append hw ht, maskWords]

/-- Among masked words nothing but the mask follows one that ends in `Bearer`. -/
theorem isChain_maskWords (opened : Bool) (words : List Text) :
    (maskWords opened words).IsChain fun w next => announces w = true → next = mask := by
  induction words generalizing opened with
  | nil => exact .nil
  | cons w rest ih =>
    have htail := ih (!opened && announces w)
    cases rest with
    | nil => exact .singleton _
    | cons next rest =>
      rw [maskWords] at htail
      rw [maskWords, maskWords, List.isChain_cons_cons]
      refine ⟨fun hannounces => ?_, htail⟩
      cases opened with
      | true =>
        have hmask : announces mask = true := hannounces
        exact absurd hmask (by decide)
      | false =>
        have hw : announces w = true := hannounces
        rw [hw]
        rfl

end Words

section Settled

/-- If among the words of a text nothing but the mask follows one that ends in `Bearer`, the text is settled. -/
theorem settled_of_isChain (h : t.words.IsChain fun w next => announces w = true → next = mask) : Settled t := by
  rintro before blanks run after rfl hne hblanks hrun hafter
  obtain ⟨c, more, rfl⟩ := List.exists_cons_of_ne_nil hne
  rw [List.forall_mem_cons] at hblanks
  obtain ⟨front, w, hwords, hw⟩ := exists_words_append_bearer before
  rw [← List.append_assoc, List.cons_append, Text.words_append_blank hblanks.1, hwords,
    words_blanks_append hblanks.2, Text.words_word_append hrun hafter, List.append_assoc, List.singleton_append,
    List.isChain_append_cons_cons] at h
  exact h.2.1 hw

/-- A masked text is settled. -/
theorem settled_redact (t : Text) : Settled (redact t) := by
  refine settled_of_isChain ?_
  have hwords := words_redactAfter false t
  rw [redactAfter, if_neg Bool.false_ne_true] at hwords
  rw [hwords]
  exact isChain_maskWords false t.words

/-- What is left of a settled text behind a part of it is settled. -/
theorem Settled.of_append (front : Text) (h : Settled (front ++ t)) : Settled t := by
  rintro before blanks run after rfl
  exact h (front ++ before) blanks run after (List.append_assoc ..).symm

/-- A settled text is left as it is. -/
theorem Settled.redact_eq (h : Settled t) : redact t = t := by
  induction hlength : t.length using Nat.strong_induction_on generalizing t with
  | _ n ih =>
    subst hlength
    cases t with
    | nil => rfl
    | cons c rest =>
      cases htoken : tokenHere? (c :: rest) with
      | none =>
        have hrest : Settled rest := Settled.of_append [c] h
        rw [redact_cons htoken, ih rest.length (by simp) hrest rfl]
      | some found =>
        -- What is taken for a token is the mask already.
        obtain ⟨lead, token⟩ := found
        obtain ⟨blanks, behind, rfl, ht, hne, hblanks, hword, hbehind⟩ := exists_of_tokenHere? htoken
        have hmask : token = mask := h [] blanks token behind ht hne hblanks hword hbehind
        subst hmask
        have hfront : c :: rest = (bearer ++ blanks ++ mask) ++ behind := by simp only [ht, List.append_assoc]
        have hshorter : behind.length < (c :: rest).length := by
          have hpos := List.length_pos_iff.mpr isWord_bearer.ne_nil
          rw [hfront, List.length_append, List.length_append, List.length_append]
          omega
        have hrest := ih behind.length hshorter (Settled.of_append _ (hfront ▸ h)) rfl
        rw [ht, ← List.append_assoc] at htoken ⊢
        rw [redact_of_token htoken (by simp [isWord_bearer.ne_nil]), hrest, List.append_assoc]

end Settled

section Tokenless

/-- A text without tokens is settled. -/
theorem Tokenless.settled (h : Tokenless t) : Settled t := by
  rintro before blanks run after rfl hne hblanks hrun -
  obtain ⟨c, more, rfl⟩ := List.exists_cons_of_ne_nil hrun.ne_nil
  have hblank := h before blanks c (more ++ after) rfl hne hblanks
  cases hblank.symm.trans (hrun.solid c List.mem_cons_self)

/-- A text has no tokens exactly if none begins anywhere in it. -/
theorem tokenless_iff : Tokenless t ↔ ∀ s ∈ t.tails, tokenHere? s = none := by
  constructor
  · intro h s hs
    obtain ⟨front, rfl⟩ := (List.mem_tails _ _).mp hs
    by_contra htoken
    obtain ⟨⟨lead, token⟩, hfound⟩ := Option.ne_none_iff_exists'.mp htoken
    obtain ⟨blanks, behind, -, rfl, hne, hblanks, hword, -⟩ := exists_of_tokenHere? hfound
    obtain ⟨c, more, rfl⟩ := List.exists_cons_of_ne_nil hword.ne_nil
    have hblank := h front blanks c (more ++ behind) rfl hne hblanks
    cases hblank.symm.trans (hword.solid c List.mem_cons_self)
  · rintro h before blanks c after rfl hne hblanks
    by_contra hc
    rw [Bool.not_eq_true] at hc
    have hnone := h _ ((List.mem_tails _ _).mpr (List.suffix_append before _))
    have hsome := tokenHere?_bearer hne hblanks (Text.isWord_takeWhile (t := after) hc)
      (Text.detached_dropWhile (c :: after))
    rw [List.takeWhile_append_dropWhile, hnone] at hsome
    contradiction

instance (t : Text) : Decidable (Tokenless t) := decidable_of_iff _ tokenless_iff.symm

end Tokenless

/-- Masking puts the mask in place of some of the words of a text. -/
theorem masks_redactAfter (opened : Bool) (t : Text) : Masks t (redactAfter opened t) := by
  induction t using Text.induction_on_words generalizing opened with
  | nil =>
    rw [redactAfter_nil]
    exact .nil
  | blank c t hc ih =>
    rw [redactAfter_blank opened hc]
    exact .blank hc (ih opened)
  | word w t hw ht ih =>
    rw [redactAfter_word opened hw ht]
    cases opened with
    | true => exact .masked hw ht (ih _)
    | false => exact .kept hw ht (ih _)

/-- **Masking settles a text and changes nothing else.** Behind `Bearer` and blanks stands nothing but the mask
afterwards; masking again changes nothing; a text without tokens is left as it is; and the masked text is the text with
the mask in place of some of its words. -/
theorem redact_settles (t : Text) :
    Settled (redact t) ∧ redact (redact t) = redact t ∧ (Tokenless t → redact t = t) ∧ Masks t (redact t) :=
  ⟨settled_redact t, (settled_redact t).redact_eq, fun h => h.settled.redact_eq, masks_redactAfter false t⟩

/-- A `Bearer` without a word behind it, or with one that is not apart from it, is left as it is. -/
theorem lastBearer_settles :
    Tokenless "BearerBearer-a Bearer " ∧ redact "BearerBearer-a Bearer " = "BearerBearer-a Bearer " := by
  have htokenless : Tokenless "BearerBearer-a Bearer " := by decide
  exact ⟨htokenless, (redact_settles _).2.2.1 htokenless⟩

end DocBuild.Log
