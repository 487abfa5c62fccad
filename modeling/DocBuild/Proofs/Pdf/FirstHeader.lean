import DocBuild.Proofs.Pdf.Header

/-!
# The first header

A header stands in octets wherever two numerals, each with white space after it, and the word that opens an object
stand behind something that does not end in a digit, and the word does not run on. What is found in a piece is the
first header that stands in it; if none is found, none stands in it. The body is what is left of the piece.
-/

namespace DocBuild.Pdf

/-- At least one digit, and nothing else. -/
structure IsNumeral (octets : Bytes) : Prop where
  ne_nil : octets ≠ []
  all_digits : ∀ b ∈ octets, isDigit b = true

/-- Octets begin with a header, and the body is what follows it. -/
structure BeginsWithHeader (octets number generation body : Bytes) : Prop where
  eq : ∃ afterNumber afterGeneration, IsSpacing afterNumber ∧ IsSpacing afterGeneration ∧
    octets = number ++ (afterNumber ++ (generation ++ (afterGeneration ++ (openObject ++ body))))
  number : IsNumeral number
  generation : IsNumeral generation
  body_apart : ∀ b ∈ body.head?, isWordByte b = false

/-- Whether the last octet is a digit; what was before the first octet counts if there is none. -/
def endsInDigit (inDigits : Bool) : Bytes → Bool
  | [] => inDigits
  | b :: rest => endsInDigit (isDigit b) rest

/-- A header stands in a piece behind what is before it; `inDigits` says that the piece follows a digit. -/
structure HasHeader (inDigits : Bool) (piece before number generation body : Bytes) : Prop where
  eq : ∃ octets, piece = before ++ octets ∧ BeginsWithHeader octets number generation body
  before_apart : endsInDigit inDigits before = false

/-- A header stands in a piece, and none stands before it. -/
structure FirstHeader (inDigits : Bool) (piece before number generation body : Bytes) : Prop
    extends HasHeader inDigits piece before number generation body where
  first : ∀ before' number' generation' body', HasHeader inDigits piece before' number' generation' body' →
    before.length ≤ before'.length

/-- No header stands in a piece. -/
def Headless (inDigits : Bool) (piece : Bytes) : Prop :=
  ∀ before number generation body, ¬ HasHeader inDigits piece before number generation body

/-- What is found of the headers in a piece is the first one, or nothing if there is none. -/
def FindsFirst (inDigits : Bool) (piece : Bytes) : Option (Bytes × Bytes × Bytes) → Prop
  | some (number, generation, body) => ∃ before, FirstHeader inDigits piece before number generation body
  | none => Headless inDigits piece

variable {inDigits : Bool} {b : UInt8} {data piece octets before number generation body digits rest : Bytes}

/-- A numeral and white space are read, and what does not go on with white space is left. -/
theorem digitsThenSpace?_eq_some_iff :
    digitsThenSpace? data = some (digits, rest) ↔ IsNumeral digits ∧
      (∃ spaces, IsSpacing spaces ∧ data = digits ++ (spaces ++ rest)) ∧ ∀ b ∈ rest.head?, isSpace b = false := by
  constructor
  · intro h
    rw [digitsThenSpace?_eq] at h
    split at h
    · contradiction
    · next hread =>
      simp only [Bool.or_eq_true, List.isEmpty_iff, Bool.not_eq_true', not_or, Bool.not_eq_false] at hread
      cases h
      have hleft : (data.dropWhile isDigit).takeWhile isSpace ++ (data.dropWhile isDigit).dropWhile isSpace =
          data.dropWhile isDigit := List.takeWhile_append_dropWhile
      refine ⟨⟨hread.1, fun b hb => List.mem_takeWhile_imp hb⟩,
        ⟨(data.dropWhile isDigit).takeWhile isSpace, ⟨?_, fun b hb => List.mem_takeWhile_imp hb⟩, ?_⟩, ?_⟩
      · cases hdrop : data.dropWhile isDigit with
        | nil => simp [hdrop] at hread
        | cons b rest =>
          have hb : isSpace b = true := by simpa [hdrop] using hread.2
          rw [List.takeWhile_cons_of_pos hb]
          exact List.cons_ne_nil b _
      · rw [hleft]
        exact List.takeWhile_append_dropWhile.symm
      · intro b hb
        have hnot := List.head?_dropWhile_not isSpace (data.dropWhile isDigit)
        rw [Option.mem_def.mp hb] at hnot
        simpa using hnot
  · rintro ⟨hdigits, ⟨spaces, hspaces, rfl⟩, hrest⟩
    exact digitsThenSpace?_run hdigits.ne_nil hdigits.all_digits hspaces hrest

/-- What is read at the front of octets is the header with which they begin. -/
theorem headerHere?_eq_some_iff :
    headerHere? octets = some (number, generation, body) ↔ BeginsWithHeader octets number generation body := by
  constructor
  · intro h
    unfold headerHere? at h
    simp only [Option.bind_eq_bind, Option.bind_eq_some_iff] at h
    obtain ⟨⟨number', rest⟩, hfirst, ⟨generation', rest'⟩, hsecond, h⟩ := h
    obtain ⟨hnumber, ⟨spaces, hspaces, rfl⟩, -⟩ := digitsThenSpace?_eq_some_iff.mp hfirst
    obtain ⟨hgeneration, ⟨spaces', hspaces', rfl⟩, -⟩ := digitsThenSpace?_eq_some_iff.mp hsecond
    split at h
    · next hword =>
      obtain ⟨body', rfl⟩ := List.isPrefixOf_iff_prefix.mp hword
      rw [List.drop_left] at h
      split at h
      · contradiction
      · next hbody =>
        cases h
        refine ⟨⟨spaces, spaces', hspaces, hspaces', rfl⟩, hnumber, hgeneration, fun b hb => ?_⟩
        simpa [Option.mem_def.mp hb] using hbody
    · contradiction
  · rintro ⟨⟨spaces, spaces', hspaces, hspaces', rfl⟩, hnumber, hgeneration, hbody⟩
    exact headerHere?_object hnumber.ne_nil hnumber.all_digits hspaces hgeneration.ne_nil hgeneration.all_digits
      hspaces' hbody

/-- Octets that begin with a header begin with a digit. -/
theorem BeginsWithHeader.exists_digit (h : BeginsWithHeader octets number generation body) :
    ∃ b rest, octets = b :: rest ∧ isDigit b = true := by
  obtain ⟨⟨spaces, spaces', -, -, rfl⟩, hnumber, -, -⟩ := h
  obtain ⟨b, more, rfl⟩ := List.exists_cons_of_ne_nil hnumber.ne_nil
  exact ⟨b, _, rfl, hnumber.all_digits b List.mem_cons_self⟩

/-- A header stands at the front of a piece exactly if the piece begins with it and does not follow a digit. -/
theorem hasHeader_nil :
    HasHeader inDigits piece [] number generation body ↔
      BeginsWithHeader piece number generation body ∧ inDigits = false := by
  constructor
  · rintro ⟨⟨octets, rfl, hbegins⟩, hapart⟩
    exact ⟨hbegins, hapart⟩
  · rintro ⟨hbegins, hapart⟩
    exact ⟨⟨piece, rfl, hbegins⟩, hapart⟩

/-- A header behind the first octet stands in what follows this octet. -/
theorem hasHeader_cons :
    HasHeader inDigits (b :: piece) (b :: before) number generation body ↔
      HasHeader (isDigit b) piece before number generation body := by
  constructor
  · rintro ⟨⟨octets, heq, hbegins⟩, hapart⟩
    exact ⟨⟨octets, List.cons_inj_right b |>.mp heq, hbegins⟩, hapart⟩
  · rintro ⟨⟨octets, rfl, hbegins⟩, hapart⟩
    exact ⟨⟨octets, rfl, hbegins⟩, hapart⟩

/-- If no header stands at the front of a piece, those that stand in it stand in what follows its first octet. -/
theorem HasHeader.exists_cons (h : HasHeader inDigits (b :: piece) before number generation body)
    (hnot : ¬ HasHeader inDigits (b :: piece) [] number generation body) :
    ∃ before', before = b :: before' ∧ HasHeader (isDigit b) piece before' number generation body := by
  cases before with
  | nil => exact absurd h hnot
  | cons c before =>
    obtain ⟨octets, heq, -⟩ := h.eq
    obtain ⟨rfl, -⟩ := List.cons_eq_cons.mp heq
    exact ⟨before, rfl, hasHeader_cons.mp h⟩

/-- If no header stands at the front of a piece, what is first in what follows its first octet is first in it. -/
theorem FindsFirst.cons {found : Option (Bytes × Bytes × Bytes)} (h : FindsFirst (isDigit b) piece found)
    (hnot : ∀ number generation body, ¬ HasHeader inDigits (b :: piece) [] number generation body) :
    FindsFirst inDigits (b :: piece) found := by
  cases found with
  | some found =>
    obtain ⟨before, hhere, hfirst⟩ := h
    refine ⟨b :: before, hasHeader_cons.mpr hhere, fun before' number' generation' body' hother => ?_⟩
    obtain ⟨before'', rfl, hrest⟩ := hother.exists_cons (hnot _ _ _)
    exact Nat.succ_le_succ (hfirst before'' _ _ _ hrest)
  | none =>
    intro before number generation body hother
    obtain ⟨before', rfl, hrest⟩ := hother.exists_cons (hnot _ _ _)
    exact h before' _ _ _ hrest

/-- The search for a header finds the first one. It goes from octet to octet, and no header stands in front of the
octets that are left. -/
theorem header?_finds (inDigits : Bool) (piece : Bytes) : FindsFirst inDigits piece (header? inDigits piece) := by
  induction piece generalizing inDigits with
  | nil =>
    rintro before number generation body ⟨⟨octets, heq, hbegins⟩, -⟩
    obtain ⟨b, rest, rfl, -⟩ := hbegins.exists_digit
    simp at heq
  | cons b rest ih =>
    rw [header?]
    split
    · next hdigit =>
      simp only [Bool.and_eq_true, Bool.not_eq_true'] at hdigit
      cases hhere : headerHere? (b :: rest) with
      | some found =>
        have hbegins := headerHere?_eq_some_iff.mp hhere
        exact ⟨[], hasHeader_nil.mpr ⟨hbegins, hdigit.2⟩, fun _ _ _ _ _ => Nat.zero_le _⟩
      | none =>
        have hnext : FindsFirst (isDigit b) rest (header? true rest) := by
          rw [hdigit.1]
          exact ih true
        refine hnext.cons fun number generation body hother => ?_
        cases hhere.symm.trans (headerHere?_eq_some_iff.mpr (hasHeader_nil.mp hother).1)
    · next hdigit =>
      refine (ih (isDigit b)).cons fun number generation body hother => hdigit ?_
      obtain ⟨hbegins, hapart⟩ := hasHeader_nil.mp hother
      obtain ⟨c, more, heq, hc⟩ := hbegins.exists_digit
      obtain ⟨rfl, -⟩ := List.cons_eq_cons.mp heq
      simp [hc, hapart]

/-- Nothing is found exactly if no header stands in the piece. -/
theorem header?_eq_none_iff : header? inDigits piece = none ↔ Headless inDigits piece := by
  have hfinds := header?_finds inDigits piece
  constructor
  · intro hnone
    rwa [hnone] at hfinds
  · intro hnone
    cases hfound : header? inDigits piece with
    | none => rfl
    | some found =>
      rw [hfound] at hfinds
      obtain ⟨before, hfirst⟩ := hfinds
      exact absurd hfirst.toHasHeader (hnone _ _ _ _)

/-- What is found is the first header in the piece, and the first header is found. -/
theorem header?_eq_some_iff :
    header? inDigits piece = some (number, generation, body) ↔
      ∃ before, FirstHeader inDigits piece before number generation body := by
  have hfinds := header?_finds inDigits piece
  constructor
  · intro hfound
    rwa [hfound] at hfinds
  · rintro ⟨before, hfirst⟩
    cases hfound : header? inDigits piece with
    | none =>
      rw [hfound] at hfinds
      exact absurd hfirst.toHasHeader (hfinds _ _ _ _)
    | some found =>
      rw [hfound] at hfinds
      obtain ⟨before', hfirst'⟩ := hfinds
      -- Both headers stand at the same place, where only one can be read.
      obtain ⟨octets, heq, hbegins⟩ := hfirst.eq
      obtain ⟨octets', heq', hbegins'⟩ := hfirst'.eq
      have hlength := Nat.le_antisymm (hfirst.first _ _ _ _ hfirst'.toHasHeader)
        (hfirst'.first _ _ _ _ hfirst.toHasHeader)
      obtain ⟨-, rfl⟩ := List.append_inj (heq.symm.trans heq') hlength
      exact (headerHere?_eq_some_iff.mpr hbegins').symm.trans (headerHere?_eq_some_iff.mpr hbegins)

/-- The body of the first header is the end of the piece. -/
theorem FirstHeader.body_suffix (h : FirstHeader inDigits piece before number generation body) : body <:+ piece := by
  obtain ⟨octets, rfl, ⟨spaces, spaces', -, -, rfl⟩, -⟩ := h.eq
  exact ⟨before ++ (number ++ (spaces ++ (generation ++ (spaces' ++ openObject)))), by simp only [List.append_assoc]⟩

end DocBuild.Pdf
