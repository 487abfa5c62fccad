import Mathlib.Data.List.Nodup

/-!
# Looking up entries

In a list of entries with pairwise different keys every entry is found under its key. Values that were noted under the
places of items, in whatever order, are found again in the order of the items. What is related place by place to items
that are themselves related place by place to others is related to these, and values that are related to those of
entries are so under their keys.
-/

namespace DocBuild

variable {κ α : Type} [BEq κ] [LawfulBEq κ] {entries : List (κ × α)}

/-- An entry of a list with pairwise different keys is found under its key. -/
theorem lookup_eq_of_mem (hkeys : (entries.map Prod.fst).Nodup) {key : κ} {value : α}
    (h : (key, value) ∈ entries) : entries.lookup key = some value := by
  induction entries with
  | nil => simp at h
  | cons entry rest ih =>
    obtain ⟨k, v⟩ := entry
    rw [List.map_cons, List.nodup_cons] at hkeys
    rcases List.mem_cons.mp h with heq | hrest
    · cases heq
      simp
    · have hne : key ≠ k := by
        rintro rfl
        exact hkeys.1 (List.mem_map.mpr ⟨(key, value), hrest, rfl⟩)
      simpa only [List.lookup_cons, beq_false_of_ne hne] using ih hkeys.2 hrest

/-- Looking up all keys in some order finds all values, in some order. -/
theorem filterMap_lookup_perm (hkeys : (entries.map Prod.fst).Nodup) {keys : List κ}
    (h : keys.Perm (entries.map Prod.fst)) :
    (keys.filterMap (entries.lookup ·)).Perm (entries.map Prod.snd) := by
  refine (h.filterMap _).trans (.of_eq ?_)
  rw [List.filterMap_map, ← List.filterMap_eq_map]
  exact List.filterMap_congr fun entry hentry => lookup_eq_of_mem hkeys hentry

/-- What is found under a key stands in the list. -/
theorem mem_of_lookup {key : κ} {value : α} (h : entries.lookup key = some value) : (key, value) ∈ entries := by
  obtain ⟨before, after, rfl, -⟩ := List.lookup_eq_some_iff.mp h
  simp

/-- Looking up all places finds all items. -/
theorem filterMap_getElem?_range (items : List α) : (List.range items.length).filterMap (items[·]?) = items := by
  induction items with
  | nil => rfl
  | cons item rest ih =>
    rw [List.length_cons, List.range_succ_eq_map, List.filterMap_cons_some List.getElem?_cons_zero, List.filterMap_map]
    exact congrArg (item :: ·) ih

/-- If something related is found under the place of each item, looking all places up finds as many values, each
related to the item of its place. -/
theorem forall₂_filterMap_lookup {β : Type} {R : β → α → Prop} {items : List β} {entries : List (Nat × α)}
    (h : ∀ (place : Nat) (item : β), items[place]? = some item →
      ∃ value, entries.lookup place = some value ∧ R item value) :
    List.Forall₂ R items ((List.range items.length).filterMap (entries.lookup ·)) := by
  have hsome : ((List.range items.length).filterMap (entries.lookup ·)).map some =
      (List.range items.length).map (entries.lookup ·) := by
    rw [List.map_filterMap_some_eq_filter_map_isSome, List.filter_eq_self]
    intro found hmem
    obtain ⟨place, hplace, rfl⟩ := List.mem_map.mp hmem
    obtain ⟨value, hvalue, -⟩ := h place _ (List.getElem?_eq_getElem (List.mem_range.mp hplace))
    simp [hvalue]
  have hlength := congrArg List.length hsome
  rw [List.length_map, List.length_map, List.length_range] at hlength
  refine List.forall₂_iff_get.mpr ⟨hlength.symm, fun place hin hout => ?_⟩
  obtain ⟨value, hvalue, hrelated⟩ := h place _ (List.getElem?_eq_getElem hin)
  have hplace := congrArg (fun found => found[place]?) hsome
  simp only [List.getElem?_map, List.getElem?_eq_getElem hout, List.getElem?_range hin, Option.map_some, hvalue,
    Option.some.injEq] at hplace
  rw [List.get_eq_getElem, List.get_eq_getElem, hplace]
  exact hrelated

/-- Items that are related place by place, and others to these, are related place by place to the last. -/
theorem forall₂_comp {β γ : Type} {R : α → β → Prop} {S : β → γ → Prop} {T : α → γ → Prop} {xs : List α} {ys : List β}
    {zs : List γ} (hxy : List.Forall₂ R xs ys) (hyz : List.Forall₂ S ys zs)
    (h : ∀ x y z, R x y → S y z → T x z) : List.Forall₂ T xs zs := by
  induction hxy generalizing zs with
  | nil =>
    cases hyz
    exact .nil
  | cons hfirst _ ih =>
    cases hyz with
    | cons hnext hrest => exact .cons (h _ _ _ hfirst hnext) (ih hrest)

/-- Values that are related to those of entries are related to them under their keys. -/
theorem forall₂_zip {κ α β : Type} {R : α → β → Prop} {entries : List (κ × α)} {values : List β}
    (h : List.Forall₂ R (entries.map Prod.snd) values) :
    List.Forall₂ (fun entry found => found.1 = entry.1 ∧ R entry.2 found.2) entries
      ((entries.map Prod.fst).zip values) := by
  induction entries generalizing values with
  | nil =>
    cases h
    exact .nil
  | cons entry rest ih =>
    cases h with
    | cons hvalue hrest => exact .cons ⟨rfl, hvalue⟩ (ih hrest)

end DocBuild
