import DocBuild.Proofs.Pdf.FirstHeader
import DocBuild.Proofs.Pdf.PageTree
import DocBuild.Proofs.Pdf.Table

/-!
# Updates behind a file

A file is updated by what is appended behind its last object. Wherever an object is closed, the objects before and after
this place can be collected apart: the objects of the whole are those before, updated with those after. So the page
count is that of the new bodies, an end that defines no object changes nothing, and every body stands in the file.
-/

namespace DocBuild.Pdf

/-- The id that two numerals denote. -/
def writtenId (number generation : Bytes) : Except LongNumeral ObjectId := do
  return ⟨← numeral number, ← numeral generation⟩

/-- The object that a piece defines by its first header, if it does. -/
def defined (piece : Bytes) : Except LongNumeral ObjectTable :=
  match header? false piece with
  | none => .ok []
  | some (number, generation, body) => (writtenId number generation).map fun id => [(id, body)]

/-- What the pieces of a file define, one after the other; an object that is defined again is there again. -/
def definitions (data : Bytes) : Except LongNumeral ObjectTable :=
  ((cut endObject data).mapM defined).map List.flatten

variable {front rest data : Bytes} {table earlier later : ObjectTable}

/-- Adding a piece updates a table with what the piece defines. -/
theorem ObjectTable.addPiece_eq (table : ObjectTable) (piece : Bytes) :
    table.addPiece piece = (defined piece).map table.update := by
  unfold addPiece defined
  cases header? false piece with
  | none => rfl
  | some found =>
    obtain ⟨number, generation, body⟩ := found
    unfold writtenId
    dsimp only
    cases numeral number with
    | error e => rfl
    | ok n => cases numeral generation <;> rfl

/-- Adding pieces updates a table with what they define. -/
theorem foldlM_addPiece (pieces : List Bytes) (table : ObjectTable) :
    pieces.foldlM ObjectTable.addPiece table =
      (pieces.mapM defined).map fun found => table.update found.flatten := by
  induction pieces generalizing table with
  | nil => rfl
  | cons piece rest ih =>
    rw [List.foldlM_cons, List.mapM_cons, ObjectTable.addPiece_eq]
    cases defined piece with
    | error e => rfl
    | ok first =>
      refine (ih (table.update first)).trans ?_
      cases rest.mapM defined with
      | error e => rfl
      | ok others =>
        refine congrArg Except.ok ?_
        show (table.update first).update others.flatten = table.update (first :: others).flatten
        rw [List.flatten_cons]
        exact List.foldl_append.symm

/-- The objects of a file are what its pieces define, put into a table. -/
theorem collect_eq (data : Bytes) : collect data = (definitions data).map (ObjectTable.update []) := by
  unfold collect definitions
  rw [foldlM_addPiece]
  cases (cut endObject data).mapM defined <;> rfl

/-- Where an object is closed, what comes before is defined before what comes after. -/
theorem definitions_append (front rest : Bytes) :
    definitions (front ++ (endObject ++ rest)) = (do return (← definitions front) ++ (← definitions rest)) := by
  unfold definitions
  rw [cut_append_word unbordered_endObject (by decide), List.mapM_append]
  cases (cut endObject front).mapM defined with
  | error e => rfl
  | ok before =>
    cases (cut endObject rest).mapM defined with
    | error e => rfl
    | ok after => exact congrArg Except.ok List.flatten_append

/-- Where an object is closed, the objects before are updated with those after. -/
theorem collect_append (front rest : Bytes) :
    collect (front ++ (endObject ++ rest)) =
      (do
        let earlier ← collect front
        let later ← collect rest
        return earlier.update later) := by
  rw [collect_eq, collect_eq, collect_eq, definitions_append]
  cases definitions front with
  | error e => rfl
  | ok before =>
    cases definitions rest with
    | error e => rfl
    | ok after =>
      refine congrArg Except.ok ?_
      calc ObjectTable.update [] (before ++ after)
        _ = (ObjectTable.update [] before).update after := List.foldl_append
        _ = (ObjectTable.update [] before).update (ObjectTable.update [] after) := by
          rw [ObjectTable.update_update ObjectTable.nodup_ids_nil]
          rfl

/-- No object of a file has two bodies. -/
theorem nodup_ids_of_collect (h : collect data = .ok table) : table.ids.Nodup := by
  rw [collect_eq] at h
  cases hdefined : definitions data with
  | error e =>
    rw [hdefined] at h
    contradiction
  | ok entries =>
    rw [hdefined] at h
    cases h
    exact ObjectTable.nodup_ids_update ObjectTable.nodup_ids_nil entries

/-- The body of an object is the one that was defined last. -/
theorem body?_of_collect (h : collect data = .ok table) :
    ∃ entries, definitions data = .ok entries ∧ ∀ id, table.body? id = ObjectTable.body? id entries.reverse := by
  rw [collect_eq] at h
  cases hdefined : definitions data with
  | error e =>
    rw [hdefined] at h
    contradiction
  | ok entries =>
    rw [hdefined] at h
    cases h
    refine ⟨entries, rfl, fun id => ?_⟩
    rw [ObjectTable.body?_update]
    exact Option.or_none

/-- A body in a table to which pieces were added was there or is what one of the pieces has behind its first header. -/
theorem mem_of_foldlM_addPiece {pieces : List Bytes} {start : ObjectTable}
    (h : pieces.foldlM ObjectTable.addPiece start = .ok table) :
    ∀ entry ∈ table, entry ∈ start ∨
      ∃ piece ∈ pieces, ∃ number generation, header? false piece = some (number, generation, entry.2) := by
  induction pieces generalizing start with
  | nil =>
    cases h
    exact fun entry hentry => Or.inl hentry
  | cons piece rest ih =>
    rw [List.foldlM_cons] at h
    have hlater {next : ObjectTable} (hadd : start.addPiece piece = .ok next) := @ih next (by rwa [hadd] at h)
    intro entry hentry
    cases hheader : header? false piece with
    | none =>
      have hadd : start.addPiece piece = .ok start := by rw [ObjectTable.addPiece, hheader]
      rcases hlater hadd entry hentry with hstart | ⟨p, hp, hfound⟩
      · exact Or.inl hstart
      · exact Or.inr ⟨p, List.mem_cons_of_mem _ hp, hfound⟩
    | some found =>
      obtain ⟨number, generation, body⟩ := found
      cases hadd : start.addPiece piece with
      | error e =>
        rw [hadd] at h
        contradiction
      | ok next =>
        rcases hlater hadd entry hentry with hnext | ⟨p, hp, hfound⟩
        · rw [ObjectTable.addPiece, hheader] at hadd
          dsimp only at hadd
          split at hadd
          · contradiction
          · contradiction
          · cases hadd
            rcases ObjectTable.mem_of_mem_define hnext with hstart | rfl
            · exact Or.inl hstart
            · exact Or.inr ⟨piece, List.mem_cons_self, number, generation, hheader⟩
        · exact Or.inr ⟨p, List.mem_cons_of_mem _ hp, hfound⟩

/-- Every body stands in the file, and no object is closed in it. -/
theorem infix_of_collect (h : collect data = .ok table) :
    ∀ entry ∈ table, entry.2 <:+: data ∧ ¬ endObject <:+: entry.2 := by
  intro entry hentry
  rcases mem_of_foldlM_addPiece h entry hentry with hnone | ⟨piece, hpiece, number, generation, hfound⟩
  · contradiction
  · obtain ⟨before, hfirst⟩ := header?_eq_some_iff.mp hfound
    obtain ⟨hin, hnot⟩ := infix_of_mem_cut unbordered_endObject (by decide) hpiece
    have hbody := hfirst.body_suffix.isInfix
    exact ⟨hbody.trans hin, fun hword => hnot (hword.trans hbody)⟩

/-- An end in which no object is closed and no header stands defines nothing. -/
theorem collect_of_headless (hclosed : ¬ endObject <:+: data) (hnone : Headless false data) :
    collect data = .ok [] := by
  unfold collect
  rw [cut_eq_singleton hclosed, List.foldlM_cons, ObjectTable.addPiece, header?_eq_none_iff.mpr hnone]
  rfl

/-- An end in which no object is closed and no header stands changes no object. -/
theorem collect_append_headless (hclosed : ¬ endObject <:+: rest) (hnone : Headless false rest) :
    collect (front ++ (endObject ++ rest)) = collect front := by
  rw [collect_append, collect_of_headless hclosed hnone]
  cases collect front <;> rfl

/-- After an update the objects with both words of a catalog have the id that the only one had before, if the update
gives both words to no other object. -/
theorem sole_of_updates (h : earlier.Updates later table) (htable : table.ids.Nodup) (hearlier : earlier.ids.Nodup)
    (hlater : later.ids.Nodup) {catalogId : ObjectId}
    (hsole : ∀ entry ∈ earlier, IsCatalog entry.2 → entry.1 = catalogId)
    (hsole' : ∀ entry ∈ later, IsCatalog entry.2 → entry.1 = catalogId) :
    ∀ entry ∈ table, IsCatalog entry.2 → entry.1 = catalogId := by
  rintro ⟨id, body⟩ hentry hwords
  have hbody := h.body id
  rw [(ObjectTable.body?_eq_some_iff htable).mpr hentry] at hbody
  rcases Option.or_eq_some_iff.mp hbody.symm with hnew | ⟨-, hold⟩
  · exact hsole' _ ((ObjectTable.body?_eq_some_iff hlater).mp hnew) hwords
  · exact hsole _ ((ObjectTable.body?_eq_some_iff hearlier).mp hold) hwords

/-- The page count of an updated table comes from the newest body of the catalog and the newest bodies of the other
objects; if the newest body of the catalog is no catalog, there is none. -/
theorem countIn_update (hearlier : earlier.ids.Nodup) (hlater : later.ids.Nodup) {catalogId : ObjectId}
    {catalog : Bytes} (hmem : (catalogId, catalog) ∈ earlier)
    (hsole : ∀ entry ∈ earlier, IsCatalog entry.2 → entry.1 = catalogId)
    (hsole' : ∀ entry ∈ later, IsCatalog entry.2 → entry.1 = catalogId) :
    let newest := (later.body? catalogId).getD catalog
    (IsCatalog newest →
      countIn (earlier.update later) = countFrom newest fun id => (later.body? id).or (earlier.body? id)) ∧
    (¬ IsCatalog newest → countIn (earlier.update later) = .error .noCatalog) := by
  intro newest
  have hupdates := ObjectTable.updates_update earlier hlater
  have htable := ObjectTable.nodup_ids_update hearlier later
  have hall := sole_of_updates hupdates htable hearlier hlater hsole hsole'
  have hnewest : (earlier.update later).body? catalogId = some newest := by
    rw [hupdates.body, (ObjectTable.body?_eq_some_iff hearlier).mpr hmem]
    exact Option.or_some
  have hentry := (ObjectTable.body?_eq_some_iff htable).mp hnewest
  -- Whatever object is a catalog is the one with the id of the catalog, and has its newest body.
  have hsame : ∀ entry ∈ earlier.update later, IsCatalog entry.2 → entry.2 = newest := by
    rintro ⟨id, body⟩ hbody hwords
    obtain rfl : id = catalogId := hall _ hbody hwords
    exact Option.some.inj (((ObjectTable.body?_eq_some_iff htable).mpr hbody).symm.trans hnewest)
  constructor
  · intro hwords
    rw [countIn_of_catalog (catalog?_eq_some hentry hwords hsame)]
    exact congrArg (countFrom newest) (funext hupdates.body)
  · intro hnot
    refine countIn_of_no_catalog (List.ne_nil_of_mem hentry) (catalog?_eq_none fun entry hmem hwords => hnot ?_)
    rwa [← hsame entry hmem hwords]

/-- **Updates of files.** Where an object is closed, the objects before are updated entry by entry with those after;
each table has the bodies that were defined last, which stand in the file and in which no object is closed. Behind a
file that ends where an object is closed, an update that gives both words of a catalog to no object but the only one
that had them makes the page count that of the newest bodies; if the catalog loses one of the words, there is none.
An end in which no object is closed and no header stands changes nothing. -/
theorem collect_of_update (front rest : Bytes) :
    collect (front ++ (endObject ++ rest)) =
      (do
        let earlier ← collect front
        let later ← collect rest
        return earlier.update later) ∧
    collect (front ++ endObject) = collect front ∧
    (∀ table, collect front = .ok table →
      table.ids.Nodup ∧
      (∃ entries, definitions front = .ok entries ∧ ∀ id, table.body? id = ObjectTable.body? id entries.reverse) ∧
      ∀ entry ∈ table, entry.2 <:+: front ∧ ¬ endObject <:+: entry.2) ∧
    (∀ earlier later, collect front = .ok earlier → collect rest = .ok later →
      earlier.Updates later (earlier.update later) ∧
      ∀ catalogId catalog, (catalogId, catalog) ∈ earlier →
        (∀ entry ∈ earlier, IsCatalog entry.2 → entry.1 = catalogId) →
        (∀ entry ∈ later, IsCatalog entry.2 → entry.1 = catalogId) →
        let newest := (later.body? catalogId).getD catalog
        (IsCatalog newest → pageCount (front ++ (endObject ++ rest)) =
          countFrom newest fun id => (later.body? id).or (earlier.body? id)) ∧
        (¬ IsCatalog newest → pageCount (front ++ (endObject ++ rest)) = .error .noCatalog)) ∧
    (¬ endObject <:+: rest → Headless false rest →
      collect (front ++ (endObject ++ rest)) = collect (front ++ endObject) ∧
      pageCount (front ++ (endObject ++ rest)) = pageCount (front ++ endObject)) := by
  have hend : collect (front ++ endObject) = collect front := by
    have hempty : collect (front ++ (endObject ++ [])) = collect front :=
      collect_append_headless (by decide) (header?_eq_none_iff.mp rfl)
    rwa [List.append_nil] at hempty
  refine ⟨collect_append front rest, hend, fun table h => ?_, fun earlier later hearlier hlater => ?_,
    fun hclosed hnone => ?_⟩
  · exact ⟨nodup_ids_of_collect h, body?_of_collect h, infix_of_collect h⟩
  · have hids := nodup_ids_of_collect hearlier
    have hids' := nodup_ids_of_collect hlater
    refine ⟨ObjectTable.updates_update earlier hids', fun catalogId catalog hmem hsole hsole' => ?_⟩
    have hall : collect (front ++ (endObject ++ rest)) = .ok (earlier.update later) := by
      rw [collect_append, hearlier, hlater]
      rfl
    have hcount : pageCount (front ++ (endObject ++ rest)) = countIn (earlier.update later) := by rw [pageCount, hall]
    rw [hcount]
    exact countIn_update hids hids' hmem hsole hsole'
  · have hsame : collect (front ++ (endObject ++ rest)) = collect (front ++ endObject) :=
      (collect_append_headless hclosed hnone).trans hend.symm
    exact ⟨hsame, by rw [pageCount, pageCount, hsame]⟩

/-- A catalog and the root of a page tree of three pages, before the word that closes the root. -/
def fileOfThree : Bytes := "1 0 obj/Type/Catalog/Pages 2 0 R endobj 2 0 obj/Count 3 "

/-- The root is defined again, with five pages. -/
def rootOfFive : Bytes := " 2 0 obj/Count 5 endobj"

/-- Behind a file of three pages a new root gives it five, and a tail without a header leaves the three. -/
theorem rootOfFive_counts :
    pageCount (fileOfThree ++ (endObject ++ rootOfFive)) = .ok 5 ∧
    pageCount (fileOfThree ++ (endObject ++ " trailer")) = .ok 3 := by
  have hearlier : collect fileOfThree = .ok [(⟨1, 0⟩, "/Type/Catalog/Pages 2 0 R "), (⟨2, 0⟩, "/Count 3 ")] := rfl
  have hlater : collect rootOfFive = .ok [(⟨2, 0⟩, "/Count 5 ")] := rfl
  obtain ⟨-, -, -, hupdate, -⟩ := collect_of_update fileOfThree rootOfFive
  obtain ⟨-, -, -, -, htail⟩ := collect_of_update fileOfThree " trailer"
  obtain ⟨-, hcount⟩ := hupdate _ _ hearlier hlater
  constructor
  · refine (hcount ⟨1, 0⟩ "/Type/Catalog/Pages 2 0 R " List.mem_cons_self ?_ ?_).1 ⟨by decide, by decide⟩
    · simp only [List.forall_mem_cons, List.not_mem_nil, false_implies, implies_true, and_true, true_and]
      exact fun hroot => absurd hroot.1 (by decide)
    · simp only [List.forall_mem_cons, List.not_mem_nil, false_implies, implies_true, and_true]
      exact fun hroot => absurd hroot.1 (by decide)
  · exact (htail (by decide) (header?_eq_none_iff.mp rfl)).2

end DocBuild.Pdf
