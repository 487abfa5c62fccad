import Mathlib.Data.List.TakeWhile
import DocBuild.Text.Blank

/-!
# The words of a text

A word is a run of characters that are no blanks, between blanks or the ends of the text. A text is empty, or it begins
with a blank, or it begins with a word behind which no further character of the word follows. What is shown in these
three cases holds of all texts.
-/

namespace DocBuild.Text

/-- The words of a text in order. -/
def words (t : Text) : List Text := (t.splitOnP (·.isBlank)).filter (!·.isEmpty)

/-- A text is one word: it is not empty, and has no blanks. -/
structure IsWord (t : Text) : Prop where
  ne_nil : t ≠ []
  solid : ∀ c ∈ t, c.isBlank = false

/-- A word in front of the text ends where the text begins: the text is empty or begins with a blank. -/
def Detached (t : Text) : Prop := ∀ c ∈ t.head?, c.isBlank = true

variable {c : CodePoint} {t w : Text}

/-- The empty text is detached. -/
theorem detached_nil : Detached [] := nofun

/-- A text that begins with a blank is detached. -/
theorem detached_cons (hc : c.isBlank = true) : Detached (c :: t) := fun _ h => Option.some.inj h ▸ hc

/-- A text that begins with blanks is detached. -/
theorem detached_blanks {blanks : Text} (hne : blanks ≠ []) (h : ∀ c ∈ blanks, c.isBlank = true) (t : Text) :
    Detached (blanks ++ t) := by
  obtain ⟨c, rest, rfl⟩ := List.exists_cons_of_ne_nil hne
  exact detached_cons (h c List.mem_cons_self)

/-- What begins with a detached text and goes on with another one is detached. -/
theorem Detached.append {r : Text} (ht : t.Detached) (hr : r.Detached) : (t ++ r).Detached := by
  cases t with
  | nil => exact hr
  | cons c rest => exact ht

/-- What is left of a text without its first word is detached. -/
theorem detached_dropWhile (t : Text) : Detached (t.dropWhile (!·.isBlank)) := by
  intro c hc
  have hfirst := List.head?_dropWhile_not (!·.isBlank) t
  rw [Option.mem_def.mp hc] at hfirst
  simpa using hfirst

/-- A text that does not begin with a blank begins with a word. -/
theorem isWord_takeWhile (hc : c.isBlank = false) : IsWord ((c :: t).takeWhile (!·.isBlank)) where
  ne_nil := by simp [hc]
  solid := by
    intro d hd
    simpa using List.mem_takeWhile_imp hd

/-- A detached text has nothing but blanks, or blanks in front of a word. -/
theorem Detached.blank_or_word (ht : t.Detached) :
    (∀ c ∈ t, c.isBlank = true) ∨ ∃ blanks w rest, t = blanks ++ (w ++ rest) ∧ blanks ≠ [] ∧
      (∀ c ∈ blanks, c.isBlank = true) ∧ IsWord w ∧ Detached rest := by
  have hfirst := List.head?_dropWhile_not (·.isBlank) t
  cases hleft : t.dropWhile (·.isBlank) with
  | nil => exact Or.inl (List.dropWhile_eq_nil_iff.mp hleft)
  | cons c rest =>
    have hc : c.isBlank = false := by simpa [hleft] using hfirst
    have hsplit := List.takeWhile_append_dropWhile (p := (·.isBlank)) (l := t)
    refine Or.inr ⟨t.takeWhile (·.isBlank), (c :: rest).takeWhile (!·.isBlank), (c :: rest).dropWhile (!·.isBlank), ?_,
      fun hnil => ?_, fun c hc => List.mem_takeWhile_imp hc, isWord_takeWhile hc, detached_dropWhile _⟩
    · rw [List.takeWhile_append_dropWhile, ← hleft, hsplit]
    · rw [hnil, hleft, List.nil_append] at hsplit
      subst hsplit
      simpa [hc] using ht c rfl

/-- What holds of the empty text, and of every other one if it holds of what is left without the first blank or the
first word, holds of all texts. -/
@[elab_as_elim]
theorem induction_on_words {motive : Text → Prop} (nil : motive [])
    (blank : ∀ c t, c.isBlank = true → motive t → motive (c :: t))
    (word : ∀ w t, IsWord w → Detached t → motive t → motive (w ++ t)) (t : Text) : motive t := by
  induction hlength : t.length using Nat.strong_induction_on generalizing t with
  | _ n ih =>
    subst hlength
    cases t with
    | nil => exact nil
    | cons c rest =>
      cases hc : c.isBlank with
      | true => exact blank c rest hc (ih rest.length (by simp) rest rfl)
      | false =>
        have hword := isWord_takeWhile (t := rest) hc
        have hshorter : ((c :: rest).dropWhile (!·.isBlank)).length < (c :: rest).length := by
          have hsplit := congrArg List.length (List.takeWhile_append_dropWhile (p := (!·.isBlank)) (l := c :: rest))
          have hpos := List.length_pos_iff.mpr hword.ne_nil
          rw [List.length_append] at hsplit
          omega
        have hrest := word _ _ hword (detached_dropWhile (c :: rest)) (ih _ hshorter _ rfl)
        rwa [List.takeWhile_append_dropWhile] at hrest

/-- The empty text has no words. -/
@[simp] theorem words_nil : words [] = [] := rfl

/-- A text that is put together at a blank has the words of both sides. -/
theorem words_append_blank (hc : c.isBlank = true) (left right : Text) :
    words (left ++ c :: right) = words left ++ words right := by
  unfold words
  rw [List.splitOnP_append_cons left right hc, List.filter_append]

/-- A blank in front of a text belongs to no word. -/
theorem words_blank_cons (hc : c.isBlank = true) (t : Text) : words (c :: t) = words t :=
  words_append_blank hc [] t

/-- A word is the only word of itself. -/
theorem words_word (hw : w.IsWord) : words w = [w] := by
  rw [words, List.splitOnP_eq_singleton hw.solid]
  simp [hw.ne_nil]

/-- A word in front of a detached text is the first of its words. -/
theorem words_word_append (hw : w.IsWord) (ht : t.Detached) : words (w ++ t) = w :: words t := by
  cases t with
  | nil => rw [List.append_nil, words_word hw, words_nil]
  | cons c rest =>
    have hc : c.isBlank = true := ht c rfl
    rw [words_append_blank hc, words_word hw, words_blank_cons hc, List.singleton_append]

/-- A word in front of a detached text ends there. -/
theorem IsWord.takeWhile_append (hw : w.IsWord) (ht : t.Detached) : (w ++ t).takeWhile (!·.isBlank) = w := by
  rw [List.takeWhile_append_of_pos fun c hc => by simp [hw.solid c hc]]
  cases t with
  | nil => simp
  | cons c rest => simp [show c.isBlank = true from ht c rfl]

/-- Behind a word the text goes on with what is detached from it. -/
theorem IsWord.dropWhile_append (hw : w.IsWord) (ht : t.Detached) : (w ++ t).dropWhile (!·.isBlank) = t := by
  rw [List.dropWhile_append_of_pos fun c hc => by simp [hw.solid c hc]]
  cases t with
  | nil => rfl
  | cons c rest => simp [show c.isBlank = true from ht c rfl]

/-- Words in front of detached texts can be told from what follows them. -/
theorem IsWord.append_inj {w' t' : Text} (hw : w.IsWord) (hw' : w'.IsWord) (ht : t.Detached) (ht' : t'.Detached)
    (h : w ++ t = w' ++ t') : w = w' ∧ t = t' := by
  refine ⟨?_, ?_⟩
  · rw [← hw.takeWhile_append ht, h, hw'.takeWhile_append ht']
  · rw [← hw.dropWhile_append ht, h, hw'.dropWhile_append ht']

/-- Behind the blanks at the beginning of a text stands what is left without them. -/
theorem drop_blanks (t : Text) : t.drop (t.takeWhile (·.isBlank)).length = t.dropWhile (·.isBlank) := by
  induction t with
  | nil => rfl
  | cons c rest ih =>
    cases hc : c.isBlank with
    | true => simpa [hc] using ih
    | false => simp [hc]

/-- Blanks in front of a word are all the blanks there. -/
theorem IsWord.takeWhile_blanks (hw : w.IsWord) {blanks : Text} (h : ∀ c ∈ blanks, c.isBlank = true) (t : Text) :
    (blanks ++ (w ++ t)).takeWhile (·.isBlank) = blanks := by
  obtain ⟨c, rest, rfl⟩ := List.exists_cons_of_ne_nil hw.ne_nil
  rw [List.takeWhile_append_of_pos h, List.cons_append,
    List.takeWhile_cons_of_neg (by simp [hw.solid c List.mem_cons_self]), List.append_nil]

end DocBuild.Text
