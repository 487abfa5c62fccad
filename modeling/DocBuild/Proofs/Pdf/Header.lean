import Mathlib.Algebra.Group.Nat.Defs
import Mathlib.Data.List.Infix
import Mathlib.Data.List.TakeWhile
import DocBuild.Pdf.Objects

/-!
# Headers in a piece

The header of an object is found wherever it stands, if what is before it does not hold the word that opens an object
and does not end in a digit: digits before the header belong to other numerals, so no run of them reaches into it.
Without the word there is no header.
-/

namespace DocBuild.Pdf

/-- The decimal numeral of a number. -/
def decimal (n : Nat) : Bytes := (Nat.toDigits 10 n).map fun c => UInt8.ofNat c.toNat

/-- At least one octet of white space, and nothing else. -/
structure IsSpacing (octets : Bytes) : Prop where
  ne_nil : octets ≠ []
  all_space : ∀ b ∈ octets, isSpace b = true

/-- The number is written with so few digits that its numeral is converted. -/
def Convertible (n : Nat) : Prop := n < 10 ^ maxDigits

/-- What may stand between two objects: the word that opens an object does not occur in it, and it does not end in a
digit. -/
structure Separates (gap : Bytes) : Prop where
  wordless : ¬ openObject <:+: gap
  last_not_digit : ∀ b ∈ gap.getLast?, isDigit b = false

instance (octets : Bytes) : Decidable (IsSpacing octets) :=
  decidable_of_iff (octets ≠ [] ∧ octets.all isSpace = true)
    ⟨fun h => ⟨h.1, List.all_eq_true.mp h.2⟩, fun h => ⟨h.ne_nil, List.all_eq_true.mpr h.all_space⟩⟩

instance (gap : Bytes) : Decidable (Separates gap) :=
  decidable_of_iff (¬ openObject <:+: gap ∧ gap.getLast?.all (fun b => !isDigit b) = true)
    ⟨fun h => ⟨h.1, by simpa [Option.all_eq_true] using h.2⟩,
      fun h => ⟨h.wordless, by simpa [Option.all_eq_true] using h.last_not_digit⟩⟩

/-- White space is no digit. -/
theorem isDigit_of_isSpace {b : UInt8} (h : isSpace b = true) : isDigit b = false := by
  simp only [isSpace, Bool.or_eq_true, decide_eq_true_eq] at h
  rcases h with ((((rfl | rfl) | rfl) | rfl) | rfl) | rfl <;> rfl

/-- A digit is no white space. -/
theorem isSpace_of_isDigit {b : UInt8} (h : isDigit b = true) : isSpace b = false := by
  by_contra hspace
  rw [isDigit_of_isSpace (by simpa using hspace)] at h
  contradiction

section Decimal

/-- The octet of a digit. -/
theorem toNat_digit {c : Char} (h : c.isDigit = true) :
    48 ≤ c.toNat ∧ c.toNat ≤ 57 ∧ (UInt8.ofNat c.toNat).toNat = c.toNat := by
  simp only [Char.isDigit, ge_iff_le, Bool.and_eq_true, decide_eq_true_eq, UInt32.le_iff_toNat_le] at h
  have hlow : 48 ≤ c.toNat := h.1
  have hhigh : c.toNat ≤ 57 := h.2
  refine ⟨hlow, hhigh, ?_⟩
  rw [UInt8.toNat_ofNat']
  omega

/-- A numeral consists of digits. -/
theorem isDigit_of_mem_decimal (n : Nat) : ∀ b ∈ decimal n, isDigit b = true := by
  intro b hb
  obtain ⟨c, hc, rfl⟩ := List.mem_map.mp hb
  obtain ⟨hlow, hhigh, hoctet⟩ := toNat_digit (Nat.isDigit_of_mem_toDigits (by decide) (by decide) hc)
  simp only [isDigit, hoctet, Bool.and_eq_true, decide_eq_true_eq]
  exact ⟨hlow, hhigh⟩

/-- A numeral has a digit. -/
theorem decimal_ne_nil (n : Nat) : decimal n ≠ [] := fun h => Nat.toDigits_ne_nil (List.map_eq_nil_iff.mp h)

/-- A numeral denotes its number. -/
theorem digitsValue_decimal (n : Nat) : digitsValue (decimal n) = n := by
  have hfold (digits : List Char) (hdigits : ∀ c ∈ digits, c.isDigit = true) (start : Nat) :
      (digits.map fun c => UInt8.ofNat c.toNat).foldl (fun n b => 10 * n + (b.toNat - 0x30)) start =
        Nat.ofDigitChars 10 digits start := by
    induction digits generalizing start with
    | nil => rfl
    | cons c rest ih =>
      have hoctet := (toNat_digit (hdigits c List.mem_cons_self)).2.2
      rw [List.map_cons, List.foldl_cons, hoctet, ih fun d hd => hdigits d (List.mem_cons_of_mem _ hd)]
      rfl
  calc digitsValue (decimal n)
    _ = Nat.ofDigitChars 10 (Nat.toDigits 10 n) 0 :=
        hfold _ (fun c hc => Nat.isDigit_of_mem_toDigits (by decide) (by decide) hc) 0
    _ = n := Nat.ofDigitChars_ten_toDigits

/-- A number that is no larger than the limit on the digits is convertible. -/
theorem convertible_of_le {n : Nat} (h : n ≤ maxDigits) : Convertible n :=
  Nat.lt_of_lt_of_le (Nat.lt_pow_self (by decide)) (Nat.pow_le_pow_right (by decide) h)

/-- A numeral is not too long exactly if its number is convertible. -/
theorem length_decimal_le_iff (n : Nat) : (decimal n).length ≤ maxDigits ↔ Convertible n := by
  rw [decimal, List.length_map]
  exact Nat.length_toDigits_le_iff (by decide) (by decide)

/-- A numeral is converted to its number, if this is convertible. -/
theorem numeral_decimal {n : Nat} (h : Convertible n) : numeral (decimal n) = .ok n := by
  have hlength := (length_decimal_le_iff n).mpr h
  rw [numeral, if_neg (Nat.not_lt.mpr hlength), digitsValue_decimal]

/-- Any other numeral is too long. -/
theorem numeral_decimal_of_not {n : Nat} (h : ¬ Convertible n) :
    numeral (decimal n) = .error ⟨(decimal n).length⟩ := by
  have hlength := mt (length_decimal_le_iff n).mp h
  rw [numeral, if_pos (Nat.lt_of_not_le hlength)]

end Decimal

section Runs

variable {digits spaces rest data found : Bytes}

/-- The white space in front of something else is passed over. -/
theorem dropWhile_spacing (hspaces : IsSpacing spaces) (hrest : ∀ b ∈ rest.head?, isSpace b = false) :
    (spaces ++ rest).dropWhile isSpace = rest := by
  rw [List.dropWhile_append_of_pos hspaces.all_space]
  cases rest with
  | nil => rfl
  | cons b rest => exact List.dropWhile_cons_of_neg (by simp [hrest b rfl])

/-- Digits and white space are read up to what follows, if that goes on with neither. -/
theorem digitsThenSpace?_run (hne : digits ≠ []) (hdigits : ∀ b ∈ digits, isDigit b = true) (hspaces : IsSpacing spaces)
    (hrest : ∀ b ∈ rest.head?, isSpace b = false) :
    digitsThenSpace? (digits ++ (spaces ++ rest)) = some (digits, rest) := by
  obtain ⟨first, more, rfl⟩ := List.exists_cons_of_ne_nil hspaces.ne_nil
  have hfirst := hspaces.all_space first List.mem_cons_self
  have htake : (digits ++ (first :: more ++ rest)).takeWhile isDigit = digits := by
    rw [List.takeWhile_append_of_pos hdigits, List.cons_append, List.takeWhile_cons_of_neg, List.append_nil]
    simp [isDigit_of_isSpace hfirst]
  unfold digitsThenSpace?
  simp only [htake, List.drop_left, dropWhile_spacing hspaces hrest]
  simp [hne, hfirst]

/-- What is read is followed by an end of the data. -/
theorem suffix_of_digitsThenSpace? (h : digitsThenSpace? data = some (digits, rest)) : rest <:+ data := by
  unfold digitsThenSpace? at h
  dsimp only at h
  split at h
  · contradiction
  · cases h
    exact (List.dropWhile_suffix _).trans (List.drop_suffix _ _)

/-- An end of a separation separates. -/
theorem Separates.of_suffix (h : Separates data) (hrest : rest <:+ data) : Separates rest := by
  refine ⟨fun hword => h.wordless (hword.trans hrest.isInfix), fun b hb => ?_⟩
  obtain ⟨front, rfl⟩ := hrest
  refine h.last_not_digit b ?_
  rw [List.getLast?_append, Option.mem_def.mp hb]
  rfl

/-- What is left of the data behind a run of digits. -/
theorem digitsThenSpace?_eq (data : Bytes) :
    digitsThenSpace? data =
      if (data.takeWhile isDigit).isEmpty || !(data.dropWhile isDigit).head?.any isSpace then none
      else some (data.takeWhile isDigit, (data.dropWhile isDigit).dropWhile isSpace) := by
  have hdrop : data.drop (data.takeWhile isDigit).length = data.dropWhile isDigit := by
    have hsplit : data.takeWhile isDigit ++ data.dropWhile isDigit = data := List.takeWhile_append_dropWhile
    calc data.drop (data.takeWhile isDigit).length
      _ = (data.takeWhile isDigit ++ data.dropWhile isDigit).drop (data.takeWhile isDigit).length := by rw [hsplit]
      _ = data.dropWhile isDigit := List.drop_left
  unfold digitsThenSpace?
  simp only [hdrop]

/-- In front of a digit, digits that do not reach up to it are read as if the digit and what follows it were not
there. -/
theorem digitsThenSpace?_append (hdata : Separates data) (hne : data ≠ []) (hrest : ∃ b ∈ rest.head?, isDigit b = true) :
    digitsThenSpace? (data ++ rest) = (digitsThenSpace? data).map fun found => (found.1, found.2 ++ rest) := by
  obtain ⟨b, hb, hdigit⟩ := hrest
  -- The last octet of the data is no digit, so a run of digits ends before it.
  have hleft : data.dropWhile isDigit ≠ [] := by
    intro hall
    have hlast := hdata.last_not_digit _ (List.getLast?_eq_some_getLast hne)
    rw [List.dropWhile_eq_nil_iff.mp hall _ (List.getLast_mem hne)] at hlast
    contradiction
  have htake : (data ++ rest).takeWhile isDigit = data.takeWhile isDigit := by
    rw [List.takeWhile_append, if_neg]
    intro hlength
    have hsplit : data.takeWhile isDigit ++ data.dropWhile isDigit = data := List.takeWhile_append_dropWhile
    replace hsplit := congrArg List.length hsplit
    rw [List.length_append, hlength] at hsplit
    exact hleft (List.length_eq_zero_iff.mp (by omega))
  have hdrop : (data ++ rest).dropWhile isDigit = data.dropWhile isDigit ++ rest := by
    rw [List.dropWhile_append, if_neg (by simpa using hleft)]
  have hspaces : rest.dropWhile isSpace = rest := by
    cases rest with
    | nil => rfl
    | cons c more =>
      cases hb
      exact List.dropWhile_cons_of_neg (by simp [isSpace_of_isDigit hdigit])
  have hafter : (data.dropWhile isDigit ++ rest).dropWhile isSpace =
      (data.dropWhile isDigit).dropWhile isSpace ++ rest := by
    rw [List.dropWhile_append]
    split
    · next hempty => rw [List.isEmpty_iff.mp hempty, hspaces, List.nil_append]
    · rfl
  have hhead : (data.dropWhile isDigit ++ rest).head? = (data.dropWhile isDigit).head? :=
    List.head?_append_of_ne_nil _ hleft
  rw [digitsThenSpace?_eq, digitsThenSpace?_eq, htake, hdrop, hafter, hhead]
  split <;> rfl

end Runs

section Header

variable {gap number afterNumber generation afterGeneration body data rest : Bytes}

/-- In front of a digit the word that opens an object does not begin unless it is there already. -/
theorem not_openObject_prefix (hdata : Separates data) (hrest : ∃ b ∈ rest.head?, isDigit b = true) :
    ¬ openObject <+: data ++ rest := by
  obtain ⟨b, hb, hdigit⟩ := hrest
  intro hword
  rcases Nat.lt_or_ge data.length openObject.length with hshort | hlong
  · -- The first octet of what follows would be one of the word, and none of these is a digit.
    have hmem : b ∈ openObject := by
      have hget := List.prefix_iff_getElem?.mp hword data.length hshort
      rw [List.getElem?_append_right (Nat.le_refl _), Nat.sub_self, ← List.head?_eq_getElem?, hb] at hget
      exact Option.some.inj hget ▸ List.getElem_mem hshort
    have hletters : openObject.all (fun b => !isDigit b) = true := rfl
    simpa [hdigit] using List.all_eq_true.mp hletters b hmem
  · exact hdata.wordless (List.prefix_of_prefix_length_le hword (List.prefix_append _ _) hlong).isInfix

/-- No header begins in a separation in front of a number that another one follows: the word that opens an object would
have to stand where the digits of the second number do. -/
theorem headerHere?_append (hgap : Separates gap) (hne : gap ≠ []) (hnumber : number ≠ [])
    (hdigits : ∀ b ∈ number, isDigit b = true) (hspaces : IsSpacing afterNumber)
    (hrest : ∃ b ∈ rest.head?, isDigit b = true) :
    headerHere? (gap ++ (number ++ (afterNumber ++ rest))) = none := by
  have hstart : ∃ b ∈ (number ++ (afterNumber ++ rest)).head?, isDigit b = true := by
    obtain ⟨b, more, rfl⟩ := List.exists_cons_of_ne_nil hnumber
    exact ⟨b, rfl, hdigits b List.mem_cons_self⟩
  have hsecond : ∀ b ∈ rest.head?, isSpace b = false := by
    obtain ⟨b, hb, hdigit⟩ := hrest
    intro b' hb'
    cases hb.symm.trans hb'
    exact isSpace_of_isDigit hdigit
  unfold headerHere?
  rw [digitsThenSpace?_append hgap hne hstart]
  cases hfirst : digitsThenSpace? gap with
  | none => rfl
  | some first =>
    have hleft := hgap.of_suffix (suffix_of_digitsThenSpace? hfirst)
    simp only [Option.map_some, Option.bind_eq_bind, Option.bind_some]
    by_cases hempty : first.2 = []
    · rw [hempty, List.nil_append, digitsThenSpace?_run hnumber hdigits hspaces hsecond]
      have hnone : Separates [] := by decide
      have hword := not_openObject_prefix hnone hrest
      simp only [Option.bind_some]
      rw [if_neg (by simpa using hword)]
    · rw [digitsThenSpace?_append hleft hempty hstart]
      cases hnext : digitsThenSpace? first.2 with
      | none => rfl
      | some second =>
        have hlast := hleft.of_suffix (suffix_of_digitsThenSpace? hnext)
        have hword := not_openObject_prefix hlast hstart
        simp only [Option.map_some, Option.bind_some]
        rw [if_neg (by simpa using hword)]

/-- The header of an object is found behind any separation. -/
theorem header?_append (hgap : Separates gap) (hnumber : number ≠ []) (hdigits : ∀ b ∈ number, isDigit b = true)
    (hspaces : IsSpacing afterNumber) (hrest : ∃ b ∈ rest.head?, isDigit b = true) :
    header? false (gap ++ (number ++ (afterNumber ++ rest))) = header? false (number ++ (afterNumber ++ rest)) := by
  -- A digit right before the number would hide its header, so what counts is whether the last octet was one.
  have hall (inDigits : Bool) (hlast : gap = [] → inDigits = false) :
      header? inDigits (gap ++ (number ++ (afterNumber ++ rest))) =
        header? false (number ++ (afterNumber ++ rest)) := by
    induction gap generalizing inDigits with
    | nil => rw [hlast rfl, List.nil_append]
    | cons b gap ih =>
      have htail := hgap.of_suffix (List.suffix_cons b gap)
      have hnone := headerHere?_append hgap (List.cons_ne_nil b gap) hnumber hdigits hspaces hrest
      have hnext : header? (isDigit b) (gap ++ (number ++ (afterNumber ++ rest))) =
          header? false (number ++ (afterNumber ++ rest)) :=
        ih htail (isDigit b) fun hempty => hgap.last_not_digit b (by rw [hempty]; rfl)
      rw [List.cons_append] at hnone ⊢
      rw [header?, ← hnext]
      split
      · next hdigit =>
        rw [hnone]
        simp only [Bool.and_eq_true] at hdigit
        rw [hdigit.1]
      · rfl
  exact hall false fun _ => rfl

/-- The numbers of an object as it is written are read where it begins, if its body does not go on with the word that
opens it. -/
theorem headerHere?_object (hnumber : number ≠ []) (hdigits : ∀ b ∈ number, isDigit b = true)
    (hspaces : IsSpacing afterNumber) (hgeneration : generation ≠ []) (hdigits' : ∀ b ∈ generation, isDigit b = true)
    (hspaces' : IsSpacing afterGeneration) (hbody : ∀ b ∈ body.head?, isWordByte b = false) :
    headerHere? (number ++ (afterNumber ++ (generation ++ (afterGeneration ++ (openObject ++ body))))) =
      some (number, generation, body) := by
  have hstart : ∀ c ∈ (generation ++ (afterGeneration ++ (openObject ++ body))).head?, isSpace c = false := by
    intro c hc
    rw [List.head?_append_of_ne_nil _ hgeneration] at hc
    exact isSpace_of_isDigit (hdigits' c (List.mem_of_mem_head? hc))
  have hletter : ∀ c ∈ (openObject ++ body).head?, isSpace c = false := by
    rintro c ⟨⟩
    rfl
  have hfirst := digitsThenSpace?_run hnumber hdigits hspaces hstart
  have hsecond := digitsThenSpace?_run hgeneration hdigits' hspaces' hletter
  have hword : openObject.isPrefixOf (openObject ++ body) = true :=
    List.isPrefixOf_iff_prefix.mpr (List.prefix_append _ _)
  have hend : body.head?.any isWordByte = false := by
    cases body with
    | nil => rfl
    | cons c rest => exact hbody c rfl
  unfold headerHere?
  rw [hfirst]
  simp only [Option.bind_eq_bind, Option.bind_some]
  rw [hsecond]
  simp only [Option.bind_some]
  rw [if_pos hword, List.drop_left, hend]
  rfl

/-- An object as it is written is found where it begins, if its body does not go on with the word that opens it. -/
theorem header?_object (hnumber : number ≠ []) (hdigits : ∀ b ∈ number, isDigit b = true)
    (hspaces : IsSpacing afterNumber) (hgeneration : generation ≠ []) (hdigits' : ∀ b ∈ generation, isDigit b = true)
    (hspaces' : IsSpacing afterGeneration) (hbody : ∀ b ∈ body.head?, isWordByte b = false) :
    header? false (number ++ (afterNumber ++ (generation ++ (afterGeneration ++ (openObject ++ body))))) =
      some (number, generation, body) := by
  have hhere := headerHere?_object hnumber hdigits hspaces hgeneration hdigits' hspaces' hbody
  obtain ⟨b, more, rfl⟩ := List.exists_cons_of_ne_nil hnumber
  rw [List.cons_append] at hhere ⊢
  rw [header?, if_pos (by simp [hdigits b List.mem_cons_self]), hhere]

/-- Where the word that opens an object does not occur there is no header. -/
theorem header?_of_wordless (h : ¬ openObject <:+: data) (inDigits : Bool) : header? inDigits data = none := by
  have hhere (data : Bytes) (h : ¬ openObject <:+: data) : headerHere? data = none := by
    unfold headerHere?
    cases hfirst : digitsThenSpace? data with
    | none => rfl
    | some first =>
      have hleft := suffix_of_digitsThenSpace? hfirst
      simp only [Option.bind_eq_bind, Option.bind_some]
      cases hsecond : digitsThenSpace? first.2 with
      | none => rfl
      | some second =>
        have hlast := (suffix_of_digitsThenSpace? hsecond).trans hleft
        simp only [Option.bind_some]
        refine if_neg fun hword => h ?_
        exact (List.isPrefixOf_iff_prefix.mp hword).isInfix.trans hlast.isInfix
  induction data generalizing inDigits with
  | nil => rfl
  | cons b rest ih =>
    have hrest : ¬ openObject <:+: rest := fun hword => h (List.infix_cons hword)
    unfold header?
    split
    · rw [hhere _ h]
      exact ih hrest true
    · exact ih hrest _

end Header

end DocBuild.Pdf
