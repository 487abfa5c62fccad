import DocBuild.Proofs.Pdf.Cutting
import DocBuild.Proofs.Pdf.Header

/-!
# Objects as they are written

A file is written as objects, each with what separates it from the one before, and a tail. Collecting the objects of
the file gives them back in their order with their bodies, unless one of their numbers is too long to be converted.
-/

namespace DocBuild.Pdf

/-- An object as it is written: what separates it from what is before it, its numbers with the white space after each,
and its body. -/
structure WrittenObject where
  gap : Bytes
  id : ObjectId
  afterNumber : Bytes
  afterGeneration : Bytes
  body : Bytes
  gap_separates : Separates gap
  afterNumber_spacing : IsSpacing afterNumber
  afterGeneration_spacing : IsSpacing afterGeneration
  body_apart : ∀ b ∈ body.head?, isWordByte b = false
  body_closed : ¬ endObject <:+: body

namespace WrittenObject

/-- The numbers of an object up to its body. -/
def header (o : WrittenObject) : Bytes :=
  decimal o.id.number ++ (o.afterNumber ++ (decimal o.id.generation ++ (o.afterGeneration ++ openObject)))

/-- What is written of an object before it is closed. -/
def piece (o : WrittenObject) : Bytes := o.gap ++ (o.header ++ o.body)

end WrittenObject

/-- A file: its objects, each of them closed, and what is behind the last one. -/
def render : List WrittenObject → Bytes → Bytes
  | [], tail => tail
  | o :: rest, tail => o.piece ++ (endObject ++ render rest tail)

/-- Both numbers of an object are convertible. -/
def ObjectId.IsConvertible (id : ObjectId) : Prop := Convertible id.number ∧ Convertible id.generation

section Infix

variable {word front rest : Bytes}

/-- Octets with which a word does not begin make no occurrence of it. -/
theorem not_infix_append_of_forall (hfront : ∀ b ∈ front, word.head? ≠ some b) (hne : word ≠ [])
    (hrest : ¬ word <:+: rest) : ¬ word <:+: front ++ rest := by
  induction front with
  | nil => exact hrest
  | cons b front ih =>
    rw [List.cons_append, List.infix_cons_iff, not_or]
    refine ⟨fun hprefix => hfront b List.mem_cons_self ?_, ih fun c hc => hfront c (List.mem_cons_of_mem _ hc)⟩
    obtain ⟨c, more, rfl⟩ := List.exists_cons_of_ne_nil hne
    rw [(List.cons_prefix_cons.mp hprefix).1]
    rfl

/-- Before an octet that does not belong to a word no occurrence of it begins that was not there. -/
theorem not_infix_append_of_head (hfront : ¬ word <:+: front) (hrest : ¬ word <:+: rest)
    (hhead : ∀ b ∈ rest.head?, b ∉ word) : ¬ word <:+: front ++ rest := by
  rw [List.infix_append_iff]
  rintro (hword | hword | ⟨left, right, rfl, hleft, hright⟩)
  · exact hfront hword
  · exact hrest hword
  · cases right with
    | nil => exact hfront (by simpa using hleft.isInfix)
    | cons b right =>
      obtain ⟨more, rfl⟩ := hright
      exact hhead b rfl (by simp)

end Infix

namespace WrittenObject

variable (o : WrittenObject)

/-- An object begins with a digit. -/
theorem head_header : ∃ b ∈ (o.header ++ o.body).head?, isDigit b = true := by
  obtain ⟨b, more, hnumber⟩ := List.exists_cons_of_ne_nil (decimal_ne_nil o.id.number)
  refine ⟨b, ?_, isDigit_of_mem_decimal o.id.number b (by simp [hnumber])⟩
  simp [header, hnumber]

/-- The word that closes an object does not occur in it before. -/
theorem endObject_not_infix_piece : ¬ endObject <:+: o.piece := by
  have hdigit : ∀ b, isDigit b = true → b ∉ endObject := by
    have hletters : endObject.all (fun b => !isDigit b) = true := rfl
    intro b hb hmem
    simpa [hb] using List.all_eq_true.mp hletters b hmem
  have hspace : ∀ b, isSpace b = true → endObject.head? ≠ some b := by
    rintro b hb ⟨⟩
    exact Bool.false_ne_true hb
  have hheader : ∀ b ∈ o.header, endObject.head? ≠ some b := by
    intro b hb
    simp only [header, List.mem_append] at hb
    rcases hb with hb | hb | hb | hb | hb
    · exact fun h => hdigit b (isDigit_of_mem_decimal _ b hb) (List.mem_of_mem_head? h)
    · exact hspace b (o.afterNumber_spacing.all_space b hb)
    · exact fun h => hdigit b (isDigit_of_mem_decimal _ b hb) (List.mem_of_mem_head? h)
    · exact hspace b (o.afterGeneration_spacing.all_space b hb)
    · rintro ⟨⟩
      exact absurd hb (by decide)
  have hgap : ¬ endObject <:+: o.gap := fun h =>
    o.gap_separates.wordless ((by decide : openObject <:+: endObject).trans h)
  refine not_infix_append_of_head hgap (not_infix_append_of_forall hheader (by decide) o.body_closed) ?_
  obtain ⟨b, hb, hb'⟩ := o.head_header
  intro c hc
  cases hb.symm.trans hc
  exact hdigit b hb'

/-- The header of an object is the first one in its piece. -/
theorem header?_piece :
    header? false o.piece = some (decimal o.id.number, decimal o.id.generation, o.body) := by
  have hdigits := isDigit_of_mem_decimal o.id.number
  have hdigits' := isDigit_of_mem_decimal o.id.generation
  have hne := decimal_ne_nil o.id.number
  have hne' := decimal_ne_nil o.id.generation
  have hrest : ∃ b ∈ (decimal o.id.generation ++ (o.afterGeneration ++ (openObject ++ o.body))).head?,
      isDigit b = true := by
    obtain ⟨b, more, hgeneration⟩ := List.exists_cons_of_ne_nil hne'
    exact ⟨b, by simp [hgeneration], hdigits' b (by simp [hgeneration])⟩
  have hpiece : o.piece = o.gap ++ (decimal o.id.number ++ (o.afterNumber ++ (decimal o.id.generation ++
      (o.afterGeneration ++ (openObject ++ o.body))))) := by
    simp only [piece, header, List.append_assoc]
  rw [hpiece, header?_append o.gap_separates hne hdigits o.afterNumber_spacing hrest]
  exact header?_object hne hdigits o.afterNumber_spacing hne' hdigits' o.afterGeneration_spacing o.body_apart

end WrittenObject

variable {objects : List WrittenObject} {tail : Bytes} {table : ObjectTable}

/-- A file is cut into the pieces of its objects and the tail. -/
theorem cut_render (htail : ¬ openObject <:+: tail) (objects : List WrittenObject) :
    cut endObject (render objects tail) = objects.map WrittenObject.piece ++ [tail] := by
  induction objects with
  | nil => exact cut_eq_singleton fun h => htail ((by decide : openObject <:+: endObject).trans h)
  | cons o rest ih =>
    rw [render, cut_append_word unbordered_endObject (by decide), cut_eq_singleton o.endObject_not_infix_piece, ih]
    rfl

namespace ObjectTable

/-- An object that is not there yet is put at the end. -/
theorem define_of_notMem {id : ObjectId} (h : id ∉ table.map Prod.fst) (body : Bytes) :
    table.define id body = table ++ [(id, body)] := by
  induction table with
  | nil => rfl
  | cons entry rest ih =>
    rw [List.map_cons, List.mem_cons, not_or] at h
    rw [define, if_neg (Ne.symm h.1), ih h.2]
    rfl

/-- The piece of an object whose numbers are convertible defines it. -/
theorem addPiece_piece (table : ObjectTable) {o : WrittenObject} (h : o.id.IsConvertible) :
    table.addPiece o.piece = .ok (table.define o.id o.body) := by
  rw [addPiece, o.header?_piece]
  simp only [numeral_decimal h.1, numeral_decimal h.2]

/-- The piece of any other object is refused. -/
theorem addPiece_piece_of_not (table : ObjectTable) {o : WrittenObject} (h : ¬ o.id.IsConvertible) :
    ∃ e, table.addPiece o.piece = .error e := by
  rw [addPiece, o.header?_piece]
  by_cases hnumber : Convertible o.id.number
  · have hgeneration : ¬ Convertible o.id.generation := fun hgeneration => h ⟨hnumber, hgeneration⟩
    refine ⟨⟨(decimal o.id.generation).length⟩, ?_⟩
    simp only [numeral_decimal hnumber, numeral_decimal_of_not hgeneration]
  · refine ⟨⟨(decimal o.id.number).length⟩, ?_⟩
    simp only [numeral_decimal_of_not hnumber]

/-- Objects with convertible numbers that are all different are put at the end in their order. -/
theorem addPieces (hall : ∀ o ∈ objects, o.id.IsConvertible)
    (hids : (table.map Prod.fst ++ objects.map WrittenObject.id).Nodup) :
    (objects.map WrittenObject.piece).foldlM addPiece table = .ok (table ++ objects.map fun o => (o.id, o.body)) := by
  induction objects generalizing table with
  | nil => simp [pure, Except.pure]
  | cons o rest ih =>
    have hnew : o.id ∉ table.map Prod.fst := fun hmem =>
      (List.nodup_append.mp hids).2.2 o.id hmem o.id (by simp) rfl
    have hnext : ((table ++ [(o.id, o.body)]).map Prod.fst ++ rest.map WrittenObject.id).Nodup := by
      simpa using hids
    rw [List.map_cons, List.foldlM_cons, addPiece_piece table (hall o List.mem_cons_self), define_of_notMem hnew]
    refine (ih (fun p hp => hall p (List.mem_cons_of_mem _ hp)) hnext).trans ?_
    rw [List.append_assoc]
    rfl

/-- If the numbers of some object are not convertible, the objects are refused. -/
theorem addPieces_of_not (h : ¬ ∀ o ∈ objects, o.id.IsConvertible) (table : ObjectTable) :
    ∃ e, (objects.map WrittenObject.piece).foldlM addPiece table = .error e := by
  induction objects generalizing table with
  | nil => exact absurd (by simp) h
  | cons o rest ih =>
    rw [List.map_cons, List.foldlM_cons]
    by_cases ho : o.id.IsConvertible
    · rw [addPiece_piece table ho]
      exact ih (fun hrest => h (List.forall_mem_cons.mpr ⟨ho, hrest⟩)) _
    · obtain ⟨e, he⟩ := addPiece_piece_of_not table ho
      exact ⟨e, by rw [he]; rfl⟩

end ObjectTable

/-- The tail of a file defines no object. -/
theorem collect_render_eq (htail : ¬ openObject <:+: tail) (objects : List WrittenObject) :
    collect (render objects tail) = (objects.map WrittenObject.piece).foldlM ObjectTable.addPiece [] := by
  have hlast (table : ObjectTable) : table.addPiece tail = .ok table := by
    rw [ObjectTable.addPiece, header?_of_wordless htail]
  rw [collect, cut_render htail, List.foldlM_append]
  cases (objects.map WrittenObject.piece).foldlM ObjectTable.addPiece [] with
  | error e => rfl
  | ok table =>
    change [tail].foldlM ObjectTable.addPiece table = _
    rw [List.foldlM_cons, hlast]
    rfl

/-- The objects of a file with convertible numbers that are all different are collected in their order. -/
theorem collect_render (htail : ¬ openObject <:+: tail) (hids : (objects.map WrittenObject.id).Nodup)
    (hall : ∀ o ∈ objects, o.id.IsConvertible) :
    collect (render objects tail) = .ok (objects.map fun o => (o.id, o.body)) :=
  (collect_render_eq htail objects).trans (ObjectTable.addPieces hall (by simpa using hids))

/-- A file with a number that is not convertible is refused. -/
theorem collect_render_of_not (htail : ¬ openObject <:+: tail) (hall : ¬ ∀ o ∈ objects, o.id.IsConvertible) :
    ∃ e, collect (render objects tail) = .error e := by
  rw [collect_render_eq htail]
  exact ObjectTable.addPieces_of_not hall []

end DocBuild.Pdf
