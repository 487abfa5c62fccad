import DocBuild.Proofs.Lookup
import DocBuild.Pdf.Objects

/-!
# Updating a table of objects

Defining an object changes the body under its id, in its place if it is there and at the end otherwise. One table is
updated with another by defining the objects of the other one after the other: those that both have keep their places
and get the new bodies, the others follow in their order. Objects that were themselves defined one after the other
update a table in the same way whether they are put into a table of their own first or not.
-/

namespace DocBuild.Pdf.ObjectTable

/-- The ids of the objects, in order. -/
def ids (table : ObjectTable) : List ObjectId := table.map Prod.fst

/-- Defines objects one after the other. -/
def update (table entries : ObjectTable) : ObjectTable :=
  entries.foldl (fun table entry => table.define entry.1 entry.2) table

/-- A table is another one updated entry by entry with a third: the objects of the other keep their places and those
that only the third has follow in their order, and the bodies are those of the third where it has one. -/
structure Updates (earlier later table : ObjectTable) : Prop where
  ids : table.ids = earlier.ids ++ later.ids.filter (· ∉ earlier.ids)
  body : ∀ id, table.body? id = (later.body? id).or (earlier.body? id)

variable {table earlier later : ObjectTable} {id other : ObjectId} {body : Bytes}

section Define

/-- The empty table repeats no id. -/
theorem nodup_ids_nil : (ids []).Nodup := List.nodup_nil

/-- The id of the first object comes first. -/
@[simp] theorem ids_cons (entry : ObjectId × Bytes) (rest : ObjectTable) : ids (entry :: rest) = entry.1 :: rest.ids :=
  rfl

/-- The first object with an id is the one that counts. -/
@[simp] theorem body?_cons (entry : ObjectId × Bytes) (rest : ObjectTable) (id : ObjectId) :
    body? id (entry :: rest) = if id = entry.1 then some entry.2 else rest.body? id := by
  obtain ⟨i, body⟩ := entry
  by_cases hid : id = i
  · simp [body?, hid]
  · simp [body?, List.lookup_cons, beq_false_of_ne hid, hid]

/-- Defining an object adds its id if it is not there. -/
theorem ids_define (table : ObjectTable) (id : ObjectId) (body : Bytes) :
    (table.define id body).ids = if id ∈ table.ids then table.ids else table.ids ++ [id] := by
  induction table with
  | nil => rfl
  | cons entry rest ih =>
    obtain ⟨i, old⟩ := entry
    by_cases hi : i = id
    · simp [define, hi]
    · have hne : ¬ id = i := Ne.symm hi
      simp only [define, if_neg hi, ids_cons, ih, List.mem_cons, hne, false_or]
      split <;> rfl

/-- Defining an object gives it its body and leaves all others alone. -/
theorem body?_define (table : ObjectTable) (id other : ObjectId) (body : Bytes) :
    (table.define id body).body? other = if other = id then some body else table.body? other := by
  induction table with
  | nil => simp [define]
  | cons entry rest ih =>
    obtain ⟨i, old⟩ := entry
    by_cases hi : i = id
    · subst hi
      by_cases hother : other = i <;> simp [define, hother]
    · by_cases hother : other = i
      · simp [define, hi, hother]
      · simp [define, hi, hother, ih]

/-- An entry of a table in which an object was defined was there or is the one that was defined. -/
theorem mem_of_mem_define {entry : ObjectId × Bytes} (h : entry ∈ table.define id body) :
    entry ∈ table ∨ entry = (id, body) := by
  induction table with
  | nil => exact Or.inr (List.mem_singleton.mp h)
  | cons first rest ih =>
    obtain ⟨i, old⟩ := first
    by_cases hi : i = id
    · subst hi
      simp only [define, if_true, List.mem_cons] at h ⊢
      exact h.elim Or.inr fun hrest => Or.inl (Or.inr hrest)
    · simp only [define, if_neg hi, List.mem_cons] at h ⊢
      exact h.elim (fun hfirst => Or.inl (Or.inl hfirst)) fun hrest => (ih hrest).imp_left Or.inr

/-- Of two definitions of one object the later one counts. -/
theorem define_define (table : ObjectTable) (id : ObjectId) (old body : Bytes) :
    (table.define id old).define id body = table.define id body := by
  induction table with
  | nil => simp [define]
  | cons entry rest ih =>
    obtain ⟨i, first⟩ := entry
    by_cases hi : i = id
    · simp [define, hi]
    · simp [define, hi, ih]

/-- An object that is there can be defined before or after another one. -/
theorem define_comm (hne : id ≠ other) (hmem : id ∈ table.ids) (body body' : Bytes) :
    (table.define other body').define id body = (table.define id body).define other body' := by
  induction table with
  | nil => simp [ids] at hmem
  | cons entry rest ih =>
    obtain ⟨i, old⟩ := entry
    by_cases hid : i = id
    · subst hid
      simp [define, hne]
    · by_cases hother : i = other
      · subst hother
        simp [define, hid]
      · have hrest : id ∈ ids rest := by simpa [Ne.symm hid] using hmem
        simp [define, hid, hother, ih hrest]

end Define

section Update

/-- Defining objects keeps those that are there. -/
theorem mem_ids_update (entries : ObjectTable) (h : id ∈ table.ids) : id ∈ (table.update entries).ids := by
  induction entries generalizing table with
  | nil => exact h
  | cons entry rest ih =>
    refine ih ?_
    rw [ids_define]
    split
    · exact h
    · exact List.mem_append_left _ h

/-- An object that is there and not among those that are defined can be defined before or after them. -/
theorem define_update {entries : ObjectTable} (hmem : id ∈ table.ids) (hnot : id ∉ entries.ids) (body : Bytes) :
    (table.update entries).define id body = (table.define id body).update entries := by
  induction entries generalizing table with
  | nil => rfl
  | cons entry rest ih =>
    obtain ⟨hne, hrest⟩ : id ≠ entry.1 ∧ id ∉ ids rest := by simpa using hnot
    have hthere : id ∈ (table.define entry.1 entry.2).ids := mem_ids_update [entry] hmem
    calc ((table.define entry.1 entry.2).update rest).define id body
      _ = ((table.define entry.1 entry.2).define id body).update rest := ih hthere hrest
      _ = ((table.define id body).define entry.1 entry.2).update rest := by rw [define_comm hne hmem]

/-- Updating with a table in which an object was defined defines it at last, if no id is twice in the table. -/
theorem update_define {entries : ObjectTable} (hnodup : entries.ids.Nodup) (id : ObjectId) (body : Bytes) :
    table.update (entries.define id body) = (table.update entries).define id body := by
  induction entries generalizing table with
  | nil => rfl
  | cons entry rest ih =>
    obtain ⟨i, old⟩ := entry
    obtain ⟨hnot, hrest⟩ := List.nodup_cons.mp hnodup
    by_cases hi : i = id
    · subst hi
      have hthere : i ∈ (table.define i old).ids := by
        rw [ids_define]
        split <;> simp_all
      calc table.update (define i body ((i, old) :: rest))
        _ = (table.define i body).update rest := by simp [define, update]
        _ = ((table.define i old).define i body).update rest := by rw [define_define]
        _ = ((table.define i old).update rest).define i body := (define_update hthere hnot body).symm
    · have hdefine : define id body ((i, old) :: rest) = (i, old) :: define id body rest := by simp [define, hi]
      rw [hdefine]
      exact ih hrest

/-- No id is twice in a table in which objects were defined, if none was before. -/
theorem nodup_ids_update (h : table.ids.Nodup) (entries : ObjectTable) : (table.update entries).ids.Nodup := by
  induction entries generalizing table with
  | nil => exact h
  | cons entry rest ih =>
    refine ih ?_
    rw [ids_define]
    split
    · exact h
    · next hnot =>
      exact List.nodup_append.mpr ⟨h, List.nodup_singleton _, fun a ha b hb => by
        rw [List.mem_singleton.mp hb]
        exact ne_of_mem_of_not_mem ha hnot⟩

/-- Updating with objects that were defined in a table defines them after those of the table. -/
theorem update_update (hnodup : earlier.ids.Nodup) (entries : ObjectTable) :
    table.update (earlier.update entries) = (table.update earlier).update entries := by
  induction entries generalizing earlier with
  | nil => rfl
  | cons entry rest ih =>
    calc table.update ((earlier.define entry.1 entry.2).update rest)
      _ = (table.update (earlier.define entry.1 entry.2)).update rest := ih (nodup_ids_update hnodup [entry])
      _ = ((table.update earlier).define entry.1 entry.2).update rest := by rw [update_define hnodup]

/-- After an update every object that was defined has the body that was given to it last. -/
theorem body?_update (table entries : ObjectTable) (id : ObjectId) :
    (table.update entries).body? id = (body? id entries.reverse).or (table.body? id) := by
  induction entries generalizing table with
  | nil => rfl
  | cons entry rest ih =>
    have hlast : (table.define entry.1 entry.2).body? id = (body? id [entry]).or (table.body? id) := by
      rw [body?_define, body?_cons]
      split <;> rfl
    have hreverse : body? id (entry :: rest).reverse = (body? id rest.reverse).or (body? id [entry]) := by
      rw [List.reverse_cons]
      exact List.lookup_append
    calc ((table.define entry.1 entry.2).update rest).body? id
      _ = (body? id rest.reverse).or ((table.define entry.1 entry.2).body? id) := ih _
      _ = (body? id (entry :: rest).reverse).or (table.body? id) := by rw [hlast, hreverse, Option.or_assoc]

/-- After an update with a table without repetitions the objects that are new follow the others. -/
theorem ids_update (h : later.ids.Nodup) :
    (table.update later).ids = table.ids ++ later.ids.filter (· ∉ table.ids) := by
  induction later generalizing table with
  | nil => simp [update, ids]
  | cons entry rest ih =>
    obtain ⟨hnot, hrest⟩ := List.nodup_cons.mp h
    have hupdate : (table.update (entry :: rest)).ids = (table.define entry.1 entry.2).ids ++
        (ids rest).filter (· ∉ (table.define entry.1 entry.2).ids) := ih hrest
    rw [hupdate, ids_define, ids_cons]
    by_cases hmem : entry.1 ∈ table.ids
    · rw [if_pos hmem, List.filter_cons_of_neg (by simpa using hmem)]
    · have hsame : (ids rest).filter (· ∉ table.ids ++ [entry.1]) = (ids rest).filter (· ∉ table.ids) := by
        refine List.filter_congr fun id hid => ?_
        have hne : id ≠ entry.1 := ne_of_mem_of_not_mem hid hnot
        simp [hne]
      rw [if_neg hmem, hsame, List.filter_cons_of_pos (by simpa using hmem), List.append_assoc]
      rfl

/-- An entry of a table without repetitions is found under its id, and what is found is an entry. -/
theorem body?_eq_some_iff (h : table.ids.Nodup) : table.body? id = some body ↔ (id, body) ∈ table :=
  ⟨mem_of_lookup, lookup_eq_of_mem h⟩

/-- A table without repetitions has the same bodies from either end. -/
theorem body?_reverse (h : later.ids.Nodup) (id : ObjectId) : body? id later.reverse = later.body? id := by
  have hreverse : (ids later.reverse).Nodup := by
    unfold ids
    rw [List.map_reverse]
    exact List.nodup_reverse.mpr h
  refine Option.ext fun body => ?_
  rw [body?_eq_some_iff hreverse, body?_eq_some_iff h, List.mem_reverse]

/-- What comes of an update with a table without repetitions is the table updated entry by entry. -/
theorem updates_update (earlier : ObjectTable) (h : later.ids.Nodup) :
    earlier.Updates later (earlier.update later) where
  ids := ids_update h
  body id := by rw [body?_update, body?_reverse h]

end Update

end DocBuild.Pdf.ObjectTable
