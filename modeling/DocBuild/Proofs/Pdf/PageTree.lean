import DocBuild.Pdf.PageCount
import DocBuild.Proofs.Lookup
import DocBuild.Proofs.Pdf.Rendering

/-!
# The page count of a written file

The catalog refers to the root of the page tree behind its only `/Pages`, and the root declares the page count behind
its only `/Count`. If exactly one object of a written file is a catalog, the page count is found through these, in
whatever order the objects stand and whatever else they hold. Numbers that are not convertible, anywhere among the
numbers of the objects or as the page count, are the only exception: with such a number there is no page count.
-/

namespace DocBuild.Pdf

/-- A word occurs in data once, between what is before it and what is after it. -/
structure OccursOnce (word before after data : Bytes) : Prop where
  eq : data = before ++ (word ++ after)
  sole : ∀ other rest, data = other ++ (word ++ rest) → other = before

/-- The body of an object mentions both words of a catalog. -/
def IsCatalog (body : Bytes) : Prop := ("/Type" : Bytes) <:+: body ∧ ("/Catalog" : Bytes) <:+: body

/-- The only `/Pages` of the body of a catalog is followed by a reference to an object. -/
def RefersTo (catalog : Bytes) (id : ObjectId) : Prop :=
  ∃ before first second third rest,
    OccursOnce "/Pages" before
      (first ++ (decimal id.number ++ (second ++ (decimal id.generation ++ (third ++ 0x52 :: rest))))) catalog ∧
    IsSpacing first ∧ IsSpacing second ∧ IsSpacing third

/-- The only `/Count` of the body of an object is followed by a number. -/
def Declares (pages : Bytes) (count : Nat) : Prop :=
  ∃ before spaces rest, OccursOnce "/Count" before (spaces ++ (decimal count ++ rest)) pages ∧
    IsSpacing spaces ∧ ∀ b ∈ rest.head?, isDigit b = false

section Search

variable {word before after data digits rest spaces : Bytes}

/-- Data mention a word exactly if it occurs in them. -/
theorem mentions_iff : mentions word data = true ↔ word <:+: data := by
  induction data with
  | nil => rw [mentions, List.isEmpty_iff, List.infix_nil]
  | cons b rest ih => rw [mentions, Bool.or_eq_true, List.isPrefixOf_iff_prefix, ih, List.infix_cons_iff]

/-- The word is found at one place only, if the octets from any other place on do not begin with it. -/
theorem occursOnce_of_drop (hne : word ≠ []) (heq : data = before ++ (word ++ after))
    (hplace : ∀ i < data.length, word <+: data.drop i → i = before.length) : OccursOnce word before after data := by
  refine ⟨heq, fun other rest hother => ?_⟩
  have hshort : other.length < data.length := by
    have hword := List.length_pos_iff.mpr hne
    rw [hother, List.length_append, List.length_append]
    omega
  have hdrop : data.drop other.length = word ++ rest := by rw [hother, List.drop_left]
  have hlength := hplace other.length hshort (hdrop ▸ List.prefix_append word rest)
  exact (List.append_inj (hother.symm.trans heq) hlength).1

/-- What is read behind a word with which data begin is found. -/
theorem afterWord?_append {α : Type} (hne : word ≠ []) {read : Bytes → Option α} {value : α}
    (hread : read after = some value) : afterWord? word read (word ++ after) = some value := by
  obtain ⟨b, more, rfl⟩ := List.exists_cons_of_ne_nil hne
  have hprefix : (b :: more).isPrefixOf (b :: (more ++ after)) = true :=
    List.isPrefixOf_iff_prefix.mpr (List.prefix_append (b :: more) after)
  have hafter : (b :: more ++ after).drop (b :: more).length = after := List.drop_left
  rw [List.cons_append] at hafter
  rw [List.cons_append, afterWord?, if_pos hprefix, hafter, hread]

/-- What is read behind the only occurrence of a word is found. -/
theorem afterWord?_of_occursOnce {α : Type} (h : OccursOnce word before after data) (hne : word ≠ [])
    {read : Bytes → Option α} {value : α} (hread : read after = some value) :
    afterWord? word read data = some value := by
  obtain ⟨rfl, hsole⟩ := h
  induction before with
  | nil => exact afterWord?_append hne hread
  | cons b before ih =>
    have hprefix : ¬ word.isPrefixOf (b :: (before ++ (word ++ after))) = true := by
      intro hword
      obtain ⟨rest, hrest⟩ := List.isPrefixOf_iff_prefix.mp hword
      exact List.cons_ne_nil b before (hsole [] rest hrest.symm).symm
    rw [List.cons_append, afterWord?, if_neg hprefix]
    refine ih fun other rest heq => List.cons_inj_right b |>.mp (hsole (b :: other) rest ?_)
    rw [List.cons_append, List.cons_append, heq]

/-- Digits do not begin with white space. -/
theorem head_digits_append (hne : digits ≠ []) (hdigits : ∀ b ∈ digits, isDigit b = true) (rest : Bytes) :
    ∀ b ∈ (digits ++ rest).head?, isSpace b = false := by
  intro b hb
  rw [List.head?_append_of_ne_nil _ hne] at hb
  exact isSpace_of_isDigit (hdigits b (List.mem_of_mem_head? hb))

/-- A numeral does not begin with white space. -/
theorem head_decimal_append (n : Nat) (rest : Bytes) : ∀ b ∈ (decimal n ++ rest).head?, isSpace b = false :=
  head_digits_append (decimal_ne_nil n) (isDigit_of_mem_decimal n) rest

/-- The numbers of a reference are read. -/
theorem reference?_decimal {first second third : Bytes} (hfirst : IsSpacing first) (hsecond : IsSpacing second)
    (hthird : IsSpacing third) (id : ObjectId) (rest : Bytes) :
    reference? (first ++ (decimal id.number ++ (second ++ (decimal id.generation ++ (third ++ 0x52 :: rest))))) =
      some (decimal id.number, decimal id.generation) := by
  have hletter : ∀ b ∈ (0x52 :: rest : Bytes).head?, isSpace b = false := by
    rintro b ⟨⟩
    rfl
  unfold reference?
  rw [dropWhile_spacing hfirst (head_decimal_append _ _),
    digitsThenSpace?_run (decimal_ne_nil _) (isDigit_of_mem_decimal _) hsecond (head_decimal_append _ _)]
  simp only [Option.bind_eq_bind, Option.bind_some]
  rw [digitsThenSpace?_run (decimal_ne_nil _) (isDigit_of_mem_decimal _) hthird hletter]
  rfl

/-- Digits behind white space are read to their end. -/
theorem spaceThenDigits?_run (hspaces : IsSpacing spaces) (hne : digits ≠ []) (hdigits : ∀ b ∈ digits, isDigit b = true)
    (hrest : ∀ b ∈ rest.head?, isDigit b = false) : spaceThenDigits? (spaces ++ (digits ++ rest)) = some digits := by
  have htake : (digits ++ rest).takeWhile isDigit = digits := by
    rw [List.takeWhile_append_of_pos hdigits]
    cases rest with
    | nil => simp
    | cons b rest => rw [List.takeWhile_cons_of_neg (by simp [hrest b rfl]), List.append_nil]
  obtain ⟨first, more, rfl⟩ := List.exists_cons_of_ne_nil hspaces.ne_nil
  have hfirst := hspaces.all_space first List.mem_cons_self
  unfold spaceThenDigits?
  simp only [dropWhile_spacing hspaces (head_digits_append hne hdigits rest), htake]
  simp [hne, hfirst]

end Search

section Table

variable {table : ObjectTable} {catalog : Bytes}

/-- Both words of a catalog are mentioned exactly in a catalog. -/
theorem mentions_catalog_iff {body : Bytes} :
    (mentions "/Type" body && mentions "/Catalog" body) = true ↔ IsCatalog body := by
  rw [Bool.and_eq_true, mentions_iff, mentions_iff]
  rfl

/-- If no other body is a catalog, the one that is is found. -/
theorem catalog?_eq_some {id : ObjectId} (hmem : (id, catalog) ∈ table) (hcatalog : IsCatalog catalog)
    (hsole : ∀ entry ∈ table, IsCatalog entry.2 → entry.2 = catalog) : catalog? table = some catalog := by
  unfold catalog?
  cases hfound : table.find? fun entry => mentions "/Type" entry.2 && mentions "/Catalog" entry.2 with
  | none => exact absurd (mentions_catalog_iff.mpr hcatalog) (List.find?_eq_none.mp hfound _ hmem)
  | some entry =>
    have hwords := List.find?_some hfound
    exact congrArg some (hsole entry (List.mem_of_find?_eq_some hfound) (mentions_catalog_iff.mp hwords))

/-- If no body is a catalog, none is found. -/
theorem catalog?_eq_none (h : ∀ entry ∈ table, ¬ IsCatalog entry.2) : catalog? table = none := by
  unfold catalog?
  rw [Option.map_eq_none_iff, List.find?_eq_none]
  exact fun entry hentry => mt mentions_catalog_iff.mp (h entry hentry)

/-- The page count that the root declares to which a catalog refers, where objects have the given bodies. -/
def countFrom (catalog : Bytes) (bodies : ObjectId → Option Bytes) : Except CountError Nat := do
  let some (number, generation) := afterWord? "/Pages" reference? catalog | throw .noReference
  let number ← (numeral number).mapError .longNumeral
  let generation ← (numeral generation).mapError .longNumeral
  let some pages := bodies ⟨number, generation⟩ | throw (.noPages ⟨number, generation⟩)
  let some count := afterWord? "/Count" spaceThenDigits? pages | throw .noCount
  (numeral count).mapError .longNumeral

/-- The page count of a table with a catalog comes from the catalog. -/
theorem countIn_of_catalog (h : catalog? table = some catalog) :
    countIn table = countFrom catalog fun id => table.body? id := by
  have hnonempty : table.isEmpty = false := by
    cases table with
    | nil => contradiction
    | cons entry rest => rfl
  unfold countIn
  rw [hnonempty, h]
  rfl

/-- A table with objects and without a catalog has no page count. -/
theorem countIn_of_no_catalog (hne : table ≠ []) (h : catalog? table = none) : countIn table = .error .noCatalog := by
  unfold countIn
  rw [List.isEmpty_eq_false_iff.mpr hne, h]
  rfl

end Table

variable {objects : List WrittenObject} {tail : Bytes}

/-- The only catalog among objects is the one that is found. -/
theorem catalog?_of_unique {catalog : WrittenObject} (hmem : catalog ∈ objects) (hcatalog : IsCatalog catalog.body)
    (hsole : ∀ o ∈ objects, IsCatalog o.body → o = catalog) :
    catalog? (objects.map fun o => (o.id, o.body)) = some catalog.body := by
  refine catalog?_eq_some (List.mem_map_of_mem hmem) hcatalog fun entry hentry hwords => ?_
  obtain ⟨o, ho, rfl⟩ := List.mem_map.mp hentry
  rw [hsole o ho hwords]

/-- In the table of objects with convertible numbers the page count is that of the root to which the only catalog
refers. -/
theorem countIn_objects (hids : (objects.map WrittenObject.id).Nodup) (hall : ∀ o ∈ objects, o.id.IsConvertible)
    {catalog pages : WrittenObject} (hcatalog : catalog ∈ objects) (hpages : pages ∈ objects)
    (hwords : IsCatalog catalog.body) (hsole : ∀ o ∈ objects, IsCatalog o.body → o = catalog)
    (hrefers : RefersTo catalog.body pages.id) {count : Nat} (hdeclares : Declares pages.body count) :
    countIn (objects.map fun o => (o.id, o.body)) = (numeral (decimal count)).mapError .longNumeral := by
  obtain ⟨before, first, second, third, rest, honce, hfirst, hsecond, hthird⟩ := hrefers
  obtain ⟨before', spaces, rest', honce', hspaces, hrest⟩ := hdeclares
  have hreference := afterWord?_of_occursOnce honce (by decide) (reference?_decimal hfirst hsecond hthird _ rest)
  have hcount := afterWord?_of_occursOnce honce' (by decide)
    (spaceThenDigits?_run hspaces (decimal_ne_nil count) (isDigit_of_mem_decimal count) hrest)
  have hbody : ObjectTable.body? pages.id (objects.map fun o => (o.id, o.body)) = some pages.body := by
    refine lookup_eq_of_mem ?_ (List.mem_map_of_mem hpages)
    rwa [List.map_map]
  obtain ⟨hnumber, hgeneration⟩ := hall pages hpages
  rw [countIn_of_catalog (catalog?_of_unique hcatalog hwords hsole)]
  unfold countFrom
  simp only [hreference, numeral_decimal hnumber, numeral_decimal hgeneration]
  simp only [Except.mapError, bind, Except.bind, hbody, hcount]

/-- A number that is not convertible anywhere in the header of an object leaves a file without a page count. -/
theorem pageCount_of_not_convertible (htail : ¬ openObject <:+: tail) (hall : ¬ ∀ o ∈ objects, o.id.IsConvertible) :
    ∃ e, pageCount (render objects tail) = .error (.longNumeral e) := by
  obtain ⟨e, he⟩ := collect_render_of_not htail hall
  exact ⟨e, by rw [pageCount, he]⟩

/-- **Page counts of written files.** If the numbers of all objects are convertible, collecting the objects of a file
gives them in their order, each with its body, and otherwise fails for the length of a number. If moreover one object
alone is a catalog, the page count is the one that the root declares to which the catalog refers, unless it is itself
not convertible; this too fails for its length. -/
theorem pageCount_render (htail : ¬ openObject <:+: tail) (hids : (objects.map WrittenObject.id).Nodup) :
    ((∀ o ∈ objects, o.id.IsConvertible) → collect (render objects tail) = .ok (objects.map fun o => (o.id, o.body))) ∧
    ((¬ ∀ o ∈ objects, o.id.IsConvertible) → ∃ e, collect (render objects tail) = .error e) ∧
    ∀ catalog ∈ objects, IsCatalog catalog.body → (∀ o ∈ objects, IsCatalog o.body → o = catalog) →
    ∀ pages ∈ objects, RefersTo catalog.body pages.id → ∀ count, Declares pages.body count →
      ((∀ o ∈ objects, o.id.IsConvertible) ∧ Convertible count → pageCount (render objects tail) = .ok count) ∧
      (¬ ((∀ o ∈ objects, o.id.IsConvertible) ∧ Convertible count) →
        ∃ e, pageCount (render objects tail) = .error (.longNumeral e)) := by
  refine ⟨collect_render htail hids, collect_render_of_not htail, ?_⟩
  intro catalog hcatalog hwords hsole pages hpages hrefers count hdeclares
  have hcount (hall : ∀ o ∈ objects, o.id.IsConvertible) :
      pageCount (render objects tail) = (numeral (decimal count)).mapError .longNumeral := by
    rw [pageCount, collect_render htail hids hall]
    exact countIn_objects hids hall hcatalog hpages hwords hsole hrefers hdeclares
  constructor
  · rintro ⟨hall, hfits⟩
    rw [hcount hall, numeral_decimal hfits]
    rfl
  · intro hnot
    by_cases hall : ∀ o ∈ objects, o.id.IsConvertible
    · have hlong : ¬ Convertible count := fun hfits => hnot ⟨hall, hfits⟩
      rw [hcount hall, numeral_decimal_of_not hlong]
      exact ⟨_, rfl⟩
    · exact pageCount_of_not_convertible htail hall

/-- The root of a page tree of three pages, put behind the first line of a file. -/
def rootOfThree : WrittenObject where
  gap := "%PDF-1.4 "
  id := ⟨2, 0⟩
  afterNumber := " "
  afterGeneration := " "
  body := " << /Kids [] /Count 3 >> "
  gap_separates := by decide
  afterNumber_spacing := by decide
  afterGeneration_spacing := by decide
  body_apart := by rintro b ⟨⟩; rfl
  body_closed := by decide

/-- A catalog that refers to the root of the page tree. -/
def laterCatalog : WrittenObject where
  gap := " "
  id := ⟨1, 0⟩
  afterNumber := " "
  afterGeneration := " "
  body := " << /Type /Catalog /Pages 2 0 R >> "
  gap_separates := by decide
  afterNumber_spacing := by decide
  afterGeneration_spacing := by decide
  body_apart := by rintro b ⟨⟩; rfl
  body_closed := by decide

/-- The catalog refers to the root, which declares three pages. -/
theorem laterCatalog_refersTo_root :
    IsCatalog laterCatalog.body ∧ RefersTo laterCatalog.body rootOfThree.id ∧ Declares rootOfThree.body 3 := by
  refine ⟨⟨by decide, by decide⟩, ⟨" << /Type /Catalog ", " ", " ", " ", " >> ", ?_, ?_, ?_, ?_⟩, ?_⟩
  · exact occursOnce_of_drop (by decide) (by decide) (by decide)
  · decide
  · decide
  · decide
  · refine ⟨" << /Kids [] ", " ", " >> ", ?_, by decide, by rintro b ⟨⟩; rfl⟩
    exact occursOnce_of_drop (by decide) (by decide) (by decide)

/-- The root stands before the catalog, and the page count is found. -/
theorem rootBeforeCatalog_has_three_pages :
    pageCount (render [rootOfThree, laterCatalog] " trailer") = .ok 3 := by
  obtain ⟨hwords, hrefers, hdeclares⟩ := laterCatalog_refersTo_root
  have hfits (n : Nat) (h : n ≤ maxDigits) : Convertible n := convertible_of_le h
  have hall : ∀ o ∈ [rootOfThree, laterCatalog], o.id.IsConvertible := by
    simp only [List.forall_mem_cons, List.not_mem_nil, false_implies, implies_true, and_true]
    exact ⟨⟨hfits 2 (by decide), hfits 0 (by decide)⟩, ⟨hfits 1 (by decide), hfits 0 (by decide)⟩⟩
  have hsole : ∀ o ∈ [rootOfThree, laterCatalog], IsCatalog o.body → o = laterCatalog := by
    simp only [List.forall_mem_cons, List.not_mem_nil, false_implies, implies_true, and_true]
    exact fun hroot => absurd hroot.1 (by decide)
  exact ((pageCount_render (by decide) (by decide)).2.2 laterCatalog (by simp) hwords hsole rootOfThree (by simp)
    hrefers 3 hdeclares).1 ⟨hall, hfits 3 (by decide)⟩

/-- An object that nothing refers to, with the least number that is not convertible. -/
def longNumbered : WrittenObject where
  gap := " "
  id := ⟨10 ^ maxDigits, 0⟩
  afterNumber := " "
  afterGeneration := " "
  body := " null "
  gap_separates := by decide
  afterNumber_spacing := by decide
  afterGeneration_spacing := by decide
  body_apart := by rintro b ⟨⟩; rfl
  body_closed := by decide

/-- The same file has no page count with one more object, although this is no catalog and its number is new. -/
theorem longNumbered_hides_pages :
    ([rootOfThree, laterCatalog, longNumbered].map WrittenObject.id).Nodup ∧
    IsCatalog laterCatalog.body ∧
    (∀ o ∈ [rootOfThree, laterCatalog, longNumbered], IsCatalog o.body → o = laterCatalog) ∧
    RefersTo laterCatalog.body rootOfThree.id ∧ Declares rootOfThree.body 3 ∧
    ∃ e, pageCount (render [rootOfThree, laterCatalog, longNumbered] " trailer") = .error (.longNumeral e) := by
  obtain ⟨hwords, hrefers, hdeclares⟩ := laterCatalog_refersTo_root
  have hnot : ¬ Convertible longNumbered.id.number := Nat.lt_irrefl _
  have hnew (n : Nat) (h : n ≤ maxDigits) : (⟨n, 0⟩ : ObjectId) ≠ longNumbered.id := fun heq =>
    hnot (heq ▸ convertible_of_le h)
  refine ⟨?_, hwords, ?_, hrefers, hdeclares, ?_⟩
  · simp only [List.map_cons, List.map_nil, List.nodup_cons, List.mem_cons, List.not_mem_nil, or_false,
      not_false_eq_true, List.nodup_nil, and_true, not_or]
    exact ⟨⟨by decide, hnew 2 (by decide)⟩, hnew 1 (by decide)⟩
  · simp only [List.forall_mem_cons, List.not_mem_nil, false_implies, implies_true, and_true, true_and]
    exact ⟨fun hroot => absurd hroot.1 (by decide), fun hlast => absurd hlast.1 (by decide)⟩
  · refine pageCount_of_not_convertible (by decide) fun hall => ?_
    exact hnot (hall longNumbered (by simp)).1

end DocBuild.Pdf
