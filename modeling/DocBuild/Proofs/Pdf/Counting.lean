import DocBuild.Proofs.Json.Members
import DocBuild.Proofs.Pdf.Updating

/-!
# The ways in which counting ends

Counting the pages of a file converts numerals: those of the first header of every piece, those of the first reference
in the catalog, and the one behind the first count in the root. If one of them is too long, counting fails with a
foreign error about its length. If none is, there is a page count or an error about what the caller gave, which names
the file.
-/

namespace DocBuild.Pdf

/-- What comes of converting numerals: a value if none of them is too long, and otherwise the length of one that is. -/
def Converted {α : Type} (needed : Bytes → Prop) : Except LongNumeral α → Prop
  | .ok _ => ∀ digits, needed digits → digits.length ≤ maxDigits
  | .error e => ∃ digits, needed digits ∧ maxDigits < digits.length ∧ e = ⟨digits.length⟩

/-- A numeral of the first header in a piece. -/
def InHeader (piece digits : Bytes) : Prop :=
  ∃ before number generation body, FirstHeader false piece before number generation body ∧
    digits ∈ [number, generation]

/-- A numeral that is converted on the way from a catalog to the page count, where objects have the given bodies: one of
the first reference, or the one behind the first count in the body of the object to which the reference refers. -/
def OnTheWay (catalog : Bytes) (bodies : ObjectId → Option Bytes) (digits : Bytes) : Prop :=
  ∃ number generation, afterWord? "/Pages" reference? catalog = some (number, generation) ∧
    (digits ∈ [number, generation] ∨
      ∃ id, writtenId number generation = .ok id ∧
        (bodies id).bind (afterWord? "/Count" spaceThenDigits?) = some digits)

/-- A numeral that is converted when the pages of a file are counted. -/
inductive Needs (data digits : Bytes) : Prop
  | header (piece : Bytes) (hpiece : piece ∈ cut endObject data) (h : InHeader piece digits)
  | tree (table : ObjectTable) (catalog : Bytes) (hcollect : collect data = .ok table)
      (hcatalog : catalog? table = some catalog) (h : OnTheWay catalog (fun id => table.body? id) digits)

/-- A fault is about what the caller gave, and its details name the file. -/
def NamesFile (filename : Json) (fault : Fault) : Prop :=
  ∃ message details, fault = .validation message (some details) ∧ details.get? "filename" = some filename

section Converted

variable {α β : Type} {needed further : Bytes → Prop} {outcome : Except LongNumeral α}

/-- A numeral is converted unless it is too long. -/
theorem converted_numeral (digits : Bytes) : Converted (· = digits) (numeral digits) := by
  unfold numeral
  split
  · next hlong => exact ⟨digits, rfl, hlong, rfl⟩
  · next hshort =>
    rintro other rfl
    exact Nat.le_of_not_lt hshort

/-- Numerals can be described in another way. -/
theorem Converted.congr (h : Converted needed outcome) (heq : ∀ digits, needed digits ↔ further digits) :
    Converted further outcome := by
  rwa [← funext fun digits => propext (heq digits)]

/-- Where numerals are converted after others, all of them are. -/
theorem Converted.bind (h : Converted needed outcome) {next : α → Except LongNumeral β}
    (hnext : ∀ value, Converted further (next value)) :
    Converted (fun digits => needed digits ∨ further digits) (outcome >>= next) := by
  cases outcome with
  | error e => exact h.imp fun digits hlong => hlong.imp_left Or.inl
  | ok value =>
    have hvalue := hnext value
    change Converted _ (next value)
    cases hresult : next value with
    | error e =>
      rw [hresult] at hvalue
      exact hvalue.imp fun digits hlong => hlong.imp_left Or.inr
    | ok result =>
      rw [hresult] at hvalue
      exact fun digits hneeded => hneeded.elim (h digits) (hvalue digits)

/-- What is made of the value does not matter. -/
theorem Converted.map (h : Converted needed outcome) (f : α → β) : Converted needed (outcome.map f) := by
  cases outcome <;> exact h

/-- Both numerals of an id are converted. -/
theorem converted_writtenId (number generation : Bytes) :
    Converted (· ∈ [number, generation]) (writtenId number generation) := by
  have hgeneration (n : Nat) : Converted (· = generation) ((numeral generation).map fun g => (⟨n, g⟩ : ObjectId)) :=
    (converted_numeral generation).map _
  have hboth := (converted_numeral number).bind hgeneration
  have heq : writtenId number generation =
      numeral number >>= fun n => (numeral generation).map fun g => (⟨n, g⟩ : ObjectId) := by
    unfold writtenId
    cases numeral number with
    | error e => rfl
    | ok n => cases numeral generation <;> rfl
  rw [heq]
  exact hboth.congr fun digits => by simp

/-- The numerals of the first header in a piece are converted. -/
theorem converted_defined (piece : Bytes) : Converted (InHeader piece) (defined piece) := by
  unfold defined
  cases hheader : header? false piece with
  | none =>
    rintro digits ⟨before, number, generation, body, hfirst, -⟩
    exact absurd hfirst.toHasHeader (header?_eq_none_iff.mp hheader _ _ _ _)
  | some found =>
    obtain ⟨number, generation, body⟩ := found
    refine ((converted_writtenId number generation).map _).congr fun digits => ⟨fun hdigits => ?_, ?_⟩
    · obtain ⟨before, hfirst⟩ := header?_eq_some_iff.mp hheader
      exact ⟨before, number, generation, body, hfirst, hdigits⟩
    · rintro ⟨before, number', generation', body', hfirst, hdigits⟩
      cases hheader.symm.trans (header?_eq_some_iff.mpr ⟨before, hfirst⟩)
      exact hdigits

/-- The numerals of the first headers in all pieces are converted. -/
theorem converted_mapM_defined (pieces : List Bytes) :
    Converted (fun digits => ∃ piece ∈ pieces, InHeader piece digits) (pieces.mapM defined) := by
  induction pieces with
  | nil => exact fun digits ⟨piece, hpiece, _⟩ => absurd hpiece List.not_mem_nil
  | cons piece rest ih =>
    rw [List.mapM_cons]
    refine ((converted_defined piece).bind fun first => ih.map (first :: ·)).congr fun digits => ?_
    rw [List.exists_mem_cons_iff]

/-- Collecting the objects of a file converts the numerals of the first headers in its pieces. -/
theorem converted_collect (data : Bytes) :
    Converted (fun digits => ∃ piece ∈ cut endObject data, InHeader piece digits) (collect data) := by
  rw [collect_eq]
  exact ((converted_mapM_defined (cut endObject data)).map _).map _

end Converted

variable {catalog number generation digits data : Bytes} {bodies : ObjectId → Option Bytes} {id : ObjectId}

/-- Behind a reference whose numerals are converted the way goes on at the object with its id. -/
theorem onTheWay_iff (hreference : afterWord? "/Pages" reference? catalog = some (number, generation))
    (hid : writtenId number generation = .ok id) :
    OnTheWay catalog bodies digits ↔ digits ∈ [number, generation] ∨
      (bodies id).bind (afterWord? "/Count" spaceThenDigits?) = some digits := by
  constructor
  · rintro ⟨number', generation', hreference', hdigits⟩
    cases hreference.symm.trans hreference'
    refine hdigits.imp_right fun ⟨id', hid', hcount⟩ => ?_
    cases hid.symm.trans hid'
    exact hcount
  · exact fun hdigits => ⟨number, generation, hreference, hdigits.imp_right fun hcount => ⟨id, hid, hcount⟩⟩

/-- Behind a reference the page count is the number of the first count, if there is one. -/
theorem countFrom_of_reference (hreference : afterWord? "/Pages" reference? catalog = some (number, generation))
    (bodies : ObjectId → Option Bytes) :
    (∀ e, writtenId number generation = .error e → countFrom catalog bodies = .error (.longNumeral e)) ∧
    ∀ id, writtenId number generation = .ok id →
      match (bodies id).bind (afterWord? "/Count" spaceThenDigits?) with
      | some digits => countFrom catalog bodies = (numeral digits).mapError .longNumeral
      | none => countFrom catalog bodies = .error (.noPages id) ∨ countFrom catalog bodies = .error .noCount := by
  unfold countFrom writtenId
  simp only [hreference]
  cases numeral number with
  | error e => exact ⟨fun _ h => by cases h; rfl, fun _ h => by contradiction⟩
  | ok n =>
    cases numeral generation with
    | error e => exact ⟨fun _ h => by cases h; rfl, fun _ h => by contradiction⟩
    | ok g =>
      refine ⟨fun _ h => by contradiction, fun id h => ?_⟩
      cases h
      cases hpages : bodies ⟨n, g⟩ with
      | none => exact Or.inl (by simp only [Except.mapError, bind, Except.bind, hpages]; rfl)
      | some pages =>
        cases hcount : afterWord? "/Count" spaceThenDigits? pages with
        | none =>
          simp only [Option.bind_some, hcount]
          exact Or.inr (by simp only [Except.mapError, bind, Except.bind, hpages, hcount]; rfl)
        | some digits =>
          simp only [Option.bind_some, hcount]
          simp only [Except.mapError, bind, Except.bind, hpages, hcount]

/-- From a catalog there is a page count unless a link is missing or a numeral on the way is too long. -/
theorem countFrom_ends (catalog : Bytes) (bodies : ObjectId → Option Bytes) :
    (∃ digits, OnTheWay catalog bodies digits ∧ maxDigits < digits.length ∧
      countFrom catalog bodies = .error (.longNumeral ⟨digits.length⟩)) ∨
    (∀ digits, OnTheWay catalog bodies digits → digits.length ≤ maxDigits) ∧
      ∀ e, countFrom catalog bodies ≠ .error (.longNumeral e) := by
  cases hreference : afterWord? "/Pages" reference? catalog with
  | none =>
    have hcount : countFrom catalog bodies = .error .noReference := by
      unfold countFrom
      rw [hreference]
      rfl
    refine Or.inr ⟨?_, fun e => by simp [hcount]⟩
    rintro digits ⟨number, generation, hfound, -⟩
    rw [hreference] at hfound
    contradiction
  | some found =>
    obtain ⟨number, generation⟩ := found
    obtain ⟨hlong, hcount⟩ := countFrom_of_reference hreference bodies
    have hwritten := converted_writtenId number generation
    cases hid : writtenId number generation with
    | error e =>
      rw [hid] at hwritten
      obtain ⟨digits, hdigits, hlength, rfl⟩ := hwritten
      exact Or.inl ⟨digits, ⟨number, generation, hreference, Or.inl hdigits⟩, hlength, hlong _ hid⟩
    | ok id =>
      rw [hid] at hwritten
      replace hcount := hcount id hid
      simp only [onTheWay_iff hreference hid]
      cases hfound : (bodies id).bind (afterWord? "/Count" spaceThenDigits?) with
      | none =>
        rw [hfound] at hcount
        refine Or.inr ⟨fun digits hdigits => hwritten digits (hdigits.resolve_right (by simp)), fun e he => ?_⟩
        rcases hcount with hcount | hcount <;> cases hcount.symm.trans he
      | some digits =>
        rw [hfound] at hcount
        dsimp only at hcount
        rw [hcount]
        have hnumeral := converted_numeral digits
        cases hvalue : numeral digits with
        | error e =>
          rw [hvalue] at hnumeral
          obtain ⟨_, rfl, hlength, rfl⟩ := hnumeral
          exact Or.inl ⟨_, Or.inr rfl, hlength, rfl⟩
        | ok count =>
          rw [hvalue] at hnumeral
          refine Or.inr ⟨fun other hother => ?_, fun e he => by contradiction⟩
          rcases hother with hother | hother
          · exact hwritten other hother
          · exact hnumeral other (Option.some.inj hother).symm

/-- Counting the pages of a file fails for the length of a numeral exactly if one that it converts is too long. -/
theorem pageCount_ends (data : Bytes) :
    (∃ digits, Needs data digits ∧ maxDigits < digits.length ∧
      pageCount data = .error (.longNumeral ⟨digits.length⟩)) ∨
    (∀ digits, Needs data digits → digits.length ≤ maxDigits) ∧ ∀ e, pageCount data ≠ .error (.longNumeral e) := by
  have hheaders := converted_collect data
  cases hcollect : collect data with
  | error e =>
    rw [hcollect] at hheaders
    obtain ⟨digits, ⟨piece, hpiece, hdigits⟩, hlong, rfl⟩ := hheaders
    exact Or.inl ⟨digits, .header piece hpiece hdigits, hlong, by rw [pageCount, hcollect]⟩
  | ok table =>
    rw [hcollect] at hheaders
    have hcount : pageCount data = countIn table := by rw [pageCount, hcollect]
    rw [hcount]
    cases hcatalog : catalog? table with
    | none =>
      refine Or.inr ⟨fun digits hneeds => ?_, fun e he => ?_⟩
      · cases hneeds with
        | header piece hpiece hdigits => exact hheaders digits ⟨piece, hpiece, hdigits⟩
        | tree table' catalog hcollect' hcatalog' _ =>
          cases hcollect.symm.trans hcollect'
          cases hcatalog.symm.trans hcatalog'
      · by_cases hempty : table = []
        · subst hempty
          have hnone : countIn [] = .error .noObjects := rfl
          cases hnone.symm.trans he
        · cases (countIn_of_no_catalog hempty hcatalog).symm.trans he
    | some catalog =>
      rw [countIn_of_catalog hcatalog]
      rcases countFrom_ends catalog fun id => table.body? id with ⟨digits, hdigits, hlong, hfails⟩ | ⟨hshort, hnot⟩
      · exact Or.inl ⟨digits, .tree table catalog hcollect hcatalog hdigits, hlong, hfails⟩
      · refine Or.inr ⟨fun digits hneeds => ?_, hnot⟩
        cases hneeds with
        | header piece hpiece hdigits => exact hheaders digits ⟨piece, hpiece, hdigits⟩
        | tree table' catalog' hcollect' hcatalog' hdigits =>
          cases hcollect.symm.trans hcollect'
          cases hcatalog.symm.trans hcatalog'
          exact hshort digits hdigits

/-- A missing link is an error about what the caller gave, and names the file. -/
theorem namesFile_toFault (filename : Json) {e : CountError} (h : ∀ n, e ≠ .longNumeral n) :
    NamesFile filename (e.toFault filename) := by
  have hfile : Members.get? "filename" [("filename", filename)] = some filename := by simp
  cases e with
  | longNumeral n => exact absurd rfl (h n)
  | noPages id =>
    refine ⟨_, _, rfl, ?_⟩
    rw [Members.get?_set_of_ne (by decide)]
    exact hfile
  | noObjects => exact ⟨_, _, rfl, hfile⟩
  | noCatalog => exact ⟨_, _, rfl, hfile⟩
  | noReference => exact ⟨_, _, rfl, hfile⟩
  | noCount => exact ⟨_, _, rfl, hfile⟩

/-- **The ways in which counting ends.** There is a page count, or an error about what the caller gave that names the
file, exactly if no numeral that is converted is too long; if one is, counting fails with a foreign error about the
length of such a numeral. -/
theorem countPages_ends (data : Bytes) (filename : Json) :
    ((∃ count, countPages data filename = .ok count) ∨
      (∃ fault, countPages data filename = .error fault ∧ NamesFile filename fault) ↔
      ∀ digits, Needs data digits → digits.length ≤ maxDigits) ∧
    ((∃ digits, Needs data digits ∧ maxDigits < digits.length) →
      ∃ digits, Needs data digits ∧ maxDigits < digits.length ∧
        countPages data filename = .error (.ofForeign .value (LongNumeral.message ⟨digits.length⟩))) := by
  unfold countPages
  rcases pageCount_ends data with ⟨digits, hneeds, hlong, hfails⟩ | ⟨hshort, hnot⟩
  · rw [hfails]
    refine ⟨⟨?_, fun hshort => absurd (hshort digits hneeds) (Nat.not_le.mpr hlong)⟩,
      fun _ => ⟨digits, hneeds, hlong, rfl⟩⟩
    rintro (⟨count, h⟩ | ⟨fault, h, message, details, rfl, -⟩) <;> cases h
  · refine ⟨⟨fun _ => hshort, fun _ => ?_⟩, fun ⟨digits, hneeds, hlong⟩ => ?_⟩
    · cases hcount : pageCount data with
      | ok count => exact Or.inl ⟨count, rfl⟩
      | error e =>
        refine Or.inr ⟨_, rfl, namesFile_toFault filename ?_⟩
        rintro n rfl
        exact hnot n hcount
    · exact absurd (hshort digits hneeds) (Nat.not_le.mpr hlong)

/-- A catalog and the root of a page tree, which declares its count in the given digits. -/
def fileCounting (digits : Bytes) : Bytes :=
  "1 0 obj/Type/Catalog/Pages 2 0 R " ++ (endObject ++ (" 2 0 obj/Count " ++ digits))

/-- Counting the pages of the file converts the digits in which the root declares its count. -/
theorem needs_fileCounting (h : IsNumeral digits) : Needs (fileCounting digits) digits := by
  have hapart : ∀ b ∈ digits, b ∉ endObject := by
    have hletters : endObject.all (!isDigit ·) = true := by decide
    intro b hb hmem
    have hletter := List.all_eq_true.mp hletters b hmem
    rw [h.all_digits b hb] at hletter
    contradiction
  have hopen : ¬ endObject <:+: " 2 0 obj/Count " ++ digits := by
    refine not_infix_append_of_head (by decide) (fun hword => ?_) fun b hb => hapart b (List.mem_of_mem_head? hb)
    exact hapart 0x65 (hword.subset (by decide)) (by decide)
  have hroot : collect (" 2 0 obj/Count " ++ digits) = .ok [(⟨2, 0⟩, "/Count " ++ digits)] := by
    unfold collect
    rw [cut_eq_singleton hopen]
    rfl
  have hcollect : collect (fileCounting digits) =
      .ok [(⟨1, 0⟩, "/Type/Catalog/Pages 2 0 R "), (⟨2, 0⟩, "/Count " ++ digits)] := by
    have hcatalog : collect "1 0 obj/Type/Catalog/Pages 2 0 R " = .ok [(⟨1, 0⟩, "/Type/Catalog/Pages 2 0 R ")] := rfl
    unfold fileCounting
    rw [collect_append, hcatalog, hroot]
    rfl
  have hdigits : spaceThenDigits? ([0x20] ++ (digits ++ [])) = some digits :=
    spaceThenDigits?_run (by decide) h.ne_nil h.all_digits fun b hb => by contradiction
  rw [List.append_nil] at hdigits
  have hcount : afterWord? "/Count" spaceThenDigits? (("/Count" : Bytes) ++ ([0x20] ++ digits)) = some digits :=
    afterWord?_append (by decide) hdigits
  exact .tree _ _ hcollect rfl ⟨[0x32], [0x30], rfl, Or.inr ⟨⟨2, 0⟩, rfl, hcount⟩⟩

/-- A three behind so many zeros that its numeral is too long. -/
def paddedThree : Bytes := List.replicate maxDigits 0x30 ++ [0x33]

/-- The padded three is a numeral and denotes three. -/
theorem paddedThree_denotes : IsNumeral paddedThree ∧ digitsValue paddedThree = 3 := by
  have hzeros (n : Nat) : (List.replicate n (0x30 : UInt8)).foldl (fun n b => 10 * n + (b.toNat - 0x30)) 0 = 0 := by
    induction n with
    | zero => rfl
    | succ n ih => exact ih
  refine ⟨⟨List.append_ne_nil_of_right_ne_nil _ (List.cons_ne_nil _ _), fun b hb => ?_⟩, ?_⟩
  · rcases List.mem_append.mp hb with hb | hb
    · rw [List.eq_of_mem_replicate hb]
      rfl
    · rw [List.mem_singleton.mp hb]
      rfl
  · unfold digitsValue paddedThree
    rw [List.foldl_append, hzeros]
    rfl

/-- The root declares three pages, and counting them fails with a foreign error. -/
theorem paddedThree_escapes :
    digitsValue paddedThree = 3 ∧ Needs (fileCounting paddedThree) paddedThree ∧
    ∃ fault, countPages (fileCounting paddedThree) (.str "document") = .error fault ∧ fault.isValidation = false := by
  obtain ⟨hnumeral, hvalue⟩ := paddedThree_denotes
  have hneeds := needs_fileCounting hnumeral
  refine ⟨hvalue, hneeds, ?_⟩
  rcases pageCount_ends (fileCounting paddedThree) with ⟨digits, -, -, hfails⟩ | ⟨hshort, -⟩
  · exact ⟨_, by rw [countPages, hfails]; rfl, rfl⟩
  · have hlong : maxDigits < paddedThree.length := by simp [paddedThree]
    exact absurd (hshort paddedThree hneeds) (Nat.not_le.mpr hlong)

end DocBuild.Pdf
