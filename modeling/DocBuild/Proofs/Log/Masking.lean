import Mathlib.Algebra.Ring.Parity
import Mathlib.Data.List.DropRight
import DocBuild.Log.Redaction
import DocBuild.Proofs.Text.Words

/-!
# Which tokens are masked

Masking goes through a text word by word. The word behind one that ends in `Bearer` is a token and is masked, unless the
word in front of it is a token itself: what belongs to one occurrence is not looked at again. So of words in a row that
end in `Bearer`, the second is a token, the fourth, and so on; and the word behind them is one if they are odd in number.
A token that is masked leaves no trace. Any other word stands as it is, even if `Bearer` stands before it.
-/

namespace DocBuild.Log

variable {c : CodePoint} {t w r : Text}

/-- Whether a word is one behind which a token stands, unless it is a token itself. -/
def announces (w : Text) : Bool := bearer.isSuffixOf w

/-- Whether the word behind words is a token, if the first of these is one or not. -/
def opens (opened : Bool) (words : List Text) : Bool := words.foldl (fun opened w => !opened && announces w) opened

/-- How many words in a row at the end of a text end in `Bearer`. -/
def announcements (t : Text) : Nat := (t.words.rtakeWhile announces).length

/-- A text whose first word is a token, masked. -/
def redactOpened : Text → Text
  | [] => []
  | c :: rest => if c.isBlank then c :: redactOpened rest else mask ++ redact (rest.dropWhile (!·.isBlank))

/-- A text masked as it is behind others, if its first word is a token there or not. -/
def redactAfter (opened : Bool) (t : Text) : Text := if opened then redactOpened t else redact t

section Scanning

/-- The characters that belong to a token are passed over. -/
theorem redactFrom_eq_drop (skip : Nat) (t : Text) : redactFrom skip t = redact (t.drop skip) := by
  induction t generalizing skip with
  | nil => cases skip <;> rfl
  | cons c rest ih =>
    cases skip with
    | zero => rfl
    | succ skip => exact ih skip

/-- Where no token begins the first character is kept. -/
theorem redact_cons (h : tokenHere? (c :: t) = none) : redact (c :: t) = c :: redact t := by
  unfold redact
  rw [redactFrom, h]

/-- Where a token begins it is masked, and all that belongs to it is passed over. -/
theorem redact_of_token {lead token : Text} (h : tokenHere? (lead ++ (token ++ r)) = some (lead, token))
    (hlead : lead ≠ []) : redact (lead ++ (token ++ r)) = lead ++ mask ++ redact r := by
  obtain ⟨c, rest, rfl⟩ := List.exists_cons_of_ne_nil hlead
  rw [List.cons_append] at h ⊢
  rw [redact, redactFrom, h]
  dsimp only
  rw [redactFrom_eq_drop, ← List.append_assoc]
  have hlength : (c :: rest).length + token.length - 1 = (rest ++ token).length := by
    simp only [List.length_cons, List.length_append]
    omega
  rw [hlength, List.drop_left]

/-- No token begins with a blank. -/
theorem tokenHere?_blank (hc : c.isBlank = true) : tokenHere? (c :: t) = none := by
  have hne : CodePoint.ofChar 'B' ≠ c := by
    rintro rfl
    exact absurd hc (by decide)
  have hbearer : bearer.isPrefixOf (c :: t) = false := by
    change (CodePoint.ofChar 'B' == c && _) = false
    rw [beq_false_of_ne hne, Bool.false_and]
  rw [tokenHere?, hbearer]
  rfl

/-- `Bearer` is a word. -/
theorem isWord_bearer : bearer.IsWord := ⟨by decide, by decide⟩

/-- Where a token begins, `Bearer` and blanks stand in front of it, and it is a word that ends there. -/
theorem exists_of_tokenHere? {lead token : Text} (h : tokenHere? t = some (lead, token)) :
    ∃ blanks rest, lead = bearer ++ blanks ∧ t = bearer ++ (blanks ++ (token ++ rest)) ∧ blanks ≠ [] ∧
      (∀ c ∈ blanks, c.isBlank = true) ∧ token.IsWord ∧ rest.Detached := by
  unfold tokenHere? at h
  split at h
  · next hbearer =>
    obtain ⟨behind, rfl⟩ := List.isPrefixOf_iff_prefix.mp hbearer
    simp only [List.drop_left, Text.drop_blanks] at h
    split at h
    · contradiction
    · next hboth =>
      cases h
      simp only [Bool.or_eq_true, List.isEmpty_iff, not_or] at hboth
      refine ⟨_, (behind.dropWhile (·.isBlank)).dropWhile (!·.isBlank), rfl, ?_, hboth.1,
        fun c hc => List.mem_takeWhile_imp hc, ⟨hboth.2, fun c hc => ?_⟩, Text.detached_dropWhile _⟩
      · rw [List.takeWhile_append_dropWhile, List.takeWhile_append_dropWhile]
      · simpa using List.mem_takeWhile_imp hc
  · contradiction

/-- Behind `Bearer` and blanks every word is a token. -/
theorem tokenHere?_bearer {blanks : Text} (hne : blanks ≠ []) (hblanks : ∀ c ∈ blanks, c.isBlank = true)
    (hw : w.IsWord) (hr : r.Detached) :
    tokenHere? (bearer ++ (blanks ++ (w ++ r))) = some (bearer ++ blanks, w) := by
  have hbearer : bearer.isPrefixOf (bearer ++ (blanks ++ (w ++ r))) = true :=
    List.isPrefixOf_iff_prefix.mpr (List.prefix_append _ _)
  have htoken : ¬ (blanks.isEmpty || w.isEmpty) = true := by simp [hne, hw.ne_nil]
  unfold tokenHere?
  simp only [hbearer, if_true, List.drop_left, hw.takeWhile_blanks hblanks, hw.takeWhile_append hr, if_neg htoken]

end Scanning

section Laws

/-- Nothing is left of the empty text. -/
@[simp] theorem redactAfter_nil (opened : Bool) : redactAfter opened [] = [] := by cases opened <;> rfl

/-- A blank is kept, and the word behind it is the first. -/
theorem redactAfter_blank (opened : Bool) (hc : c.isBlank = true) (t : Text) :
    redactAfter opened (c :: t) = c :: redactAfter opened t := by
  cases opened with
  | false => exact redact_cons (tokenHere?_blank hc)
  | true => exact if_pos hc

/-- Blanks are kept. -/
theorem redactAfter_blanks (opened : Bool) {blanks : Text} (hblanks : ∀ c ∈ blanks, c.isBlank = true) (t : Text) :
    redactAfter opened (blanks ++ t) = blanks ++ redactAfter opened t := by
  induction blanks with
  | nil => rfl
  | cons c rest ih =>
    rw [List.forall_mem_cons] at hblanks
    rw [List.cons_append, redactAfter_blank opened hblanks.1, ih hblanks.2, List.cons_append]

/-- Blanks alone are kept. -/
theorem redactAfter_of_blanks (opened : Bool) {blanks : Text} (hblanks : ∀ c ∈ blanks, c.isBlank = true) :
    redactAfter opened blanks = blanks := by
  have hall := redactAfter_blanks opened hblanks []
  rwa [redactAfter_nil, List.append_nil] at hall

/-- A first word that is a token is masked. -/
theorem redactOpened_word (hw : w.IsWord) (hr : r.Detached) : redactOpened (w ++ r) = mask ++ redact r := by
  have hrest := hw.dropWhile_append hr
  obtain ⟨c, rest, rfl⟩ := List.exists_cons_of_ne_nil hw.ne_nil
  have hc : c.isBlank = false := hw.solid c List.mem_cons_self
  rw [List.cons_append, List.dropWhile_cons_of_pos (by simp [hc])] at hrest
  rw [List.cons_append, redactOpened, hc, hrest]
  rfl

/-- What ends in `Bearer` and is more than that also does so without its first character. -/
theorem announces_cons (h : c :: w ≠ bearer) : announces (c :: w) = announces w := by
  rw [Bool.eq_iff_iff, announces, announces, List.isSuffixOf_iff_suffix, List.isSuffixOf_iff_suffix,
    List.suffix_cons_iff, or_iff_right h.symm]

/-- A first word that is no token is kept, and the next one is a token if it ends in `Bearer`. -/
theorem redact_word (hw : ∀ c ∈ w, c.isBlank = false) (hr : r.Detached) :
    redact (w ++ r) = w ++ redactAfter (announces w) r := by
  induction w with
  | nil => rfl
  | cons c w ih =>
    rw [List.forall_mem_cons] at hw
    have hword : Text.IsWord (c :: w) := ⟨List.cons_ne_nil c w, List.forall_mem_cons.mpr hw⟩
    cases htoken : tokenHere? (c :: w ++ r) with
    | some found =>
      -- The word is `Bearer`, and a token stands behind it.
      obtain ⟨lead, token⟩ := found
      obtain ⟨blanks, rest, rfl, ht, hne, hblanks, hfound, hrest⟩ := exists_of_tokenHere? htoken
      obtain ⟨hbearer, rfl⟩ := hword.append_inj isWord_bearer hr (Text.detached_blanks hne hblanks _) ht
      rw [hbearer, ← List.append_assoc] at htoken ⊢
      rw [redact_of_token htoken (by simp [isWord_bearer.ne_nil])]
      change _ = _ ++ redactAfter true _
      rw [redactAfter_blanks true hblanks, redactAfter, if_pos rfl, redactOpened_word hfound hrest]
      simp only [List.append_assoc]
    | none =>
      rw [List.cons_append] at htoken ⊢
      rw [redact_cons htoken, ih hw.2, List.cons_append]
      by_cases hbearer : c :: w = bearer
      · -- Nothing but blanks stand behind `Bearer`, so it makes no difference that it announces a token.
        rcases hr.blank_or_word with hblank | ⟨blanks, token, rest, rfl, hne, hblanks, hfound, hrest⟩
        · rw [redactAfter_of_blanks _ hblank, redactAfter_of_blanks _ hblank]
        · rw [← List.cons_append, hbearer, tokenHere?_bearer hne hblanks hfound hrest] at htoken
          contradiction
      · rw [announces_cons hbearer]

/-- A first word is masked if it is a token; otherwise it is kept, and announces the next one if it ends in `Bearer`. -/
theorem redactAfter_word (opened : Bool) (hw : w.IsWord) (hr : r.Detached) :
    redactAfter opened (w ++ r) = (if opened then mask else w) ++ redactAfter (!opened && announces w) r := by
  cases opened with
  | true => exact redactOpened_word hw hr
  | false => exact redact_word hw.solid hr

/-- A text is masked word by word. -/
theorem redactAfter_append (opened : Bool) (t : Text) (hr : r.Detached) :
    redactAfter opened (t ++ r) = redactAfter opened t ++ redactAfter (opens opened t.words) r := by
  induction t using Text.induction_on_words generalizing opened with
  | nil => simp [opens]
  | blank c t hc ih =>
    rw [List.cons_append, redactAfter_blank opened hc, redactAfter_blank opened hc, ih, Text.words_blank_cons hc,
      List.cons_append]
  | word w t hw ht ih =>
    rw [List.append_assoc, redactAfter_word opened hw (ht.append hr), redactAfter_word opened hw ht, ih,
      Text.words_word_append hw ht, List.append_assoc]
    rfl

end Laws

/-- The word behind words is a token exactly if those at the end that end in `Bearer` are odd in number. -/
theorem opens_iff_odd (words : List Text) : opens false words = true ↔ Odd (words.rtakeWhile announces).length := by
  induction words using List.reverseRecOn with
  | nil => simp [opens]
  | append_singleton words w ih =>
    have hstep : opens false (words ++ [w]) = (!opens false words && announces w) := by simp [opens]
    rw [hstep, List.rtakeWhile_concat]
    cases hw : announces w with
    | true => simp [Nat.odd_add_one, ← ih]
    | false => simp

/-- A detached text stays detached. -/
theorem detached_redactAfter (opened : Bool) (ht : t.Detached) : (redactAfter opened t).Detached := by
  cases t with
  | nil => rwa [redactAfter_nil]
  | cons c rest =>
    have hc : c.isBlank = true := ht c rfl
    rw [redactAfter_blank opened hc]
    exact Text.detached_cons hc

/-- What is left of a text with a word behind `Bearer`: the word is masked unless the `Bearer` is a token itself. -/
theorem redact_behind_bearer (before : Text) (hw : w.IsWord) (hr : r.Detached) :
    let opened := opens false (before ++ bearer).words
    redact (before ++ "Bearer " ++ w ++ r) = redact (before ++ bearer) ++ (CodePoint.ofChar ' ' ::
      ((if opened then mask else w) ++ redactAfter (!opened && announces w) r)) := by
  have hspace : (CodePoint.ofChar ' ').isBlank = true := by decide
  have hsplit : (before ++ "Bearer " ++ w ++ r : Text) = (before ++ bearer) ++ (CodePoint.ofChar ' ' :: (w ++ r)) := by
    simp only [show (Text.ofString "Bearer ") = bearer ++ [CodePoint.ofChar ' '] from rfl, List.append_assoc]
    rfl
  rw [hsplit]
  refine (redactAfter_append false (before ++ bearer) (Text.detached_cons hspace)).trans ?_
  rw [redactAfter_blank _ hspace, redactAfter_word _ hw hr]
  rfl

/-- **A token leaves no trace exactly if an odd number of words in a row that end in `Bearer` stand in front of it.** If
their number is even, the last of them is taken for a token itself, and what stands behind it is shown. -/
theorem redact_hides_iff {before after token token' : Text} (htoken : token.IsWord) (htoken' : token'.IsWord)
    (hafter : after.Detached) :
    redact (before ++ "Bearer " ++ token ++ after) = redact (before ++ "Bearer " ++ token' ++ after) ↔
      token = token' ∨ Odd (announcements (before ++ bearer)) := by
  rw [redact_behind_bearer before htoken hafter, redact_behind_bearer before htoken' hafter,
    List.append_cancel_left_eq, List.cons_inj_right, announcements, ← opens_iff_odd]
  cases opens false (before ++ bearer).words with
  | true => simp
  | false =>
    simp only [Bool.false_eq_true, if_false, or_false]
    constructor
    · intro h
      exact (htoken.append_inj htoken' (detached_redactAfter _ hafter) (detached_redactAfter _ hafter) h).1
    · rintro rfl
      rfl

/-- Behind three words in a row that end in `Bearer` any token is hidden. -/
theorem thirdBearer_hides :
    Text.IsWord "a" ∧ Text.IsWord "Bearer" ∧ Text.Detached " Bearer b" ∧
      redact ("sent Bearer myBearer " ++ "Bearer " ++ "a" ++ " Bearer b") =
        redact ("sent Bearer myBearer " ++ "Bearer " ++ "Bearer" ++ " Bearer b") := by
  have hfirst : Text.IsWord "a" := ⟨by decide, by decide⟩
  have hsecond : Text.IsWord "Bearer" := ⟨by decide, by decide⟩
  have hafter : Text.Detached " Bearer b" := Text.detached_cons (by decide)
  exact ⟨hfirst, hsecond, hafter, (redact_hides_iff hfirst hsecond hafter).mpr (Or.inr (by decide))⟩

/-- A key that begins with `Bearer` itself is shown: two words in front of its second half end in `Bearer`. -/
theorem doubledBearer_shows :
    Text.IsWord "a" ∧ Text.IsWord "b" ∧ Text.Detached "" ∧
      redact ("Authorization: Bearer " ++ "Bearer " ++ "a" ++ "") ≠
        redact ("Authorization: Bearer " ++ "Bearer " ++ "b" ++ "") :=
  ⟨⟨by decide, by decide⟩, ⟨by decide, by decide⟩, Text.detached_nil, by decide⟩

end DocBuild.Log
