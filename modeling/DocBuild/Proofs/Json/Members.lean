import DocBuild.Json.Basic
import DocBuild.Proofs.Text.Numeral

/-!
# Looking up members

The value of a member in objects that are put together from lists of members, and what setting members does to
an object that does not have them yet.
-/

namespace DocBuild.Members

/-- An object without members has no value for a name. -/
@[simp] theorem get?_nil (name : Text) : get? name [] = none := rfl

/-- The first member with a name is the one that counts. -/
@[simp] theorem get?_cons (name n : Text) (value : Json) (rest : Members) :
    get? name ((n, value) :: rest) = if n = name then some value else get? name rest := by
  by_cases h : n = name
  · subst h
    simp [get?]
  · have hne : (name == n) = false := beq_false_of_ne fun e => h e.symm
    simp [get?, List.lookup_cons, hne, h]

/-- A member of the first list hides one of the second. -/
@[simp] theorem get?_append (name : Text) (left right : Members) :
    get? name (left ++ right) = (get? name left).or (get? name right) :=
  List.lookup_append

/-- One member has a value for its name alone. -/
@[simp] theorem get?_single (name n : Text) (value : Json) :
    get? name (single n value) = if n = name then some value else none := by
  simp [single]

/-- The names of members. -/
def names (members : Members) : List Text := members.map Prod.fst

/-- A name that no member has has no value. -/
theorem get?_eq_none {name : Text} {members : Members} (h : name ∉ members.names) : get? name members = none := by
  induction members with
  | nil => rfl
  | cons member rest ih =>
    obtain ⟨n, value⟩ := member
    simp only [names, List.map_cons, List.mem_cons, not_or] at h
    rw [get?_cons, if_neg fun e => h.1 e.symm, ih h.2]

/-- A name has a value exactly if some member has it. -/
theorem isSome_get?_iff {name : Text} {members : Members} :
    (get? name members).isSome = true ↔ name ∈ members.names := by
  induction members with
  | nil => simp [names]
  | cons member rest ih =>
    obtain ⟨n, value⟩ := member
    rw [get?_cons, names, List.map_cons, List.mem_cons, ← names, ← ih]
    by_cases hn : n = name
    · simp [hn]
    · simp [hn, Ne.symm hn]

/-- Setting a member that is not there appends it. -/
theorem set_of_notMem {name : Text} {members : Members} (value : Json) (h : name ∉ members.names) :
    members.set name value = members ++ [(name, value)] := by
  induction members with
  | nil => rfl
  | cons member rest ih =>
    obtain ⟨n, v⟩ := member
    simp only [names, List.map_cons, List.mem_cons, not_or] at h
    rw [set, if_neg fun e => h.1 e.symm, ih h.2, List.cons_append]

/-- A member with a default is appended unless there is one with its name. -/
theorem setDefault_eq_append (name : Text) (value : Json) (members : Members) :
    members.setDefault name value = members ++ [(name, value)].filter (·.1 ∉ members.names) := by
  unfold setDefault
  by_cases h : name ∈ members.names
  · rw [if_pos (isSome_get?_iff.mpr h), List.filter_cons_of_neg (by simpa using h), List.filter_nil, List.append_nil]
  · rw [if_neg fun hsome => h (isSome_get?_iff.mp hsome), set_of_notMem value h,
      List.filter_cons_of_pos (by simpa using h), List.filter_nil]

/-- A member with a default adds its name if it adds a member. -/
theorem mem_names_setDefault {name other : Text} {members : Members} {value : Json} :
    other ∈ (members.setDefault name value).names ↔ other ∈ members.names ∨ other = name := by
  by_cases h : name ∈ members.names
  · rw [setDefault, if_pos (isSome_get?_iff.mpr h), or_iff_left_of_imp fun heq => heq ▸ h]
  · have hset : members.setDefault name value = members ++ [(name, value)] := by
      rw [setDefault_eq_append, List.filter_cons_of_pos (by simpa using h), List.filter_nil]
    rw [hset, names, List.map_append, List.mem_append]
    exact or_congr_right List.mem_singleton

/-- Members with two different names and defaults are appended where there are none with these names. -/
theorem setDefault_setDefault {name other : Text} (h : other ≠ name) (value otherValue : Json) (members : Members) :
    (members.setDefault name value).setDefault other otherValue =
      members ++ [(name, value), (other, otherValue)].filter (·.1 ∉ members.names) := by
  have hother : [(other, otherValue)].filter (·.1 ∉ (members.setDefault name value).names) =
      [(other, otherValue)].filter (·.1 ∉ members.names) := by
    refine List.filter_congr fun member hmember => ?_
    cases List.mem_singleton.mp hmember
    simp only [mem_names_setDefault, h, or_false]
  rw [setDefault_eq_append, hother, setDefault_eq_append, List.append_assoc, ← List.filter_append,
    List.singleton_append]

/-- Setting a member adds its name and no other. -/
theorem mem_names_set {name other : Text} {members : Members} {value : Json}
    (h : other ∈ (members.set name value).names) : other = name ∨ other ∈ members.names := by
  induction members with
  | nil => simpa [set, names] using h
  | cons member rest ih =>
    obtain ⟨n, v⟩ := member
    by_cases hn : n = name
    · rw [set, if_pos hn] at h
      exact Or.inr h
    · rw [set, if_neg hn] at h
      simp only [names, List.map_cons, List.mem_cons] at h ⊢
      rcases h with h | h
      · exact Or.inr (Or.inl h)
      · rcases ih h with h | h
        · exact Or.inl h
        · exact Or.inr (Or.inr h)

/-- Setting members one after the other adds their names and no others. -/
theorem mem_names_overlay {other : Text} {base added : Members} (h : other ∈ (overlay base added).names) :
    other ∈ base.names ∨ other ∈ added.names := by
  induction added generalizing base with
  | nil => exact Or.inl h
  | cons member rest ih =>
    rcases @ih (base.set member.1 member.2) h with h | h
    · rcases mem_names_set h with h | h
      · exact Or.inr (by simp [names, h])
      · exact Or.inl h
    · exact Or.inr (List.mem_cons_of_mem _ h)

/-- Members with other names are set behind the first member. -/
theorem overlay_cons {name : Text} {value : Json} {base added : Members} (h : name ∉ added.names) :
    overlay ((name, value) :: base) added = (name, value) :: overlay base added := by
  induction added generalizing base with
  | nil => rfl
  | cons member rest ih =>
    obtain ⟨n, v⟩ := member
    simp only [names, List.map_cons, List.mem_cons, not_or] at h
    change overlay (set n v ((name, value) :: base)) rest = (name, value) :: overlay (set n v base) rest
    rw [set, if_neg h.1, ih h.2]

/-- Members with different names that the object does not have are set behind it in order. -/
theorem overlay_of_nodup {base added : Members} (hadded : added.names.Nodup)
    (hbase : ∀ name ∈ added.names, name ∉ base.names) : overlay base added = base ++ added := by
  induction added generalizing base with
  | nil => simp [overlay]
  | cons member rest ih =>
    obtain ⟨n, v⟩ := member
    simp only [names, List.map_cons, List.nodup_cons] at hadded
    have hfirst : n ∉ base.names := hbase n List.mem_cons_self
    have hrest : ∀ name ∈ names rest, name ∉ names (base ++ [(n, v)]) := by
      intro name hname hmem
      simp only [names, List.map_append, List.mem_append, List.map_cons, List.map_nil,
        List.mem_singleton] at hmem
      rcases hmem with hmem | rfl
      · exact hbase name (List.mem_cons_of_mem _ hname) hmem
      · exact hadded.1 hname
    change overlay (set n v base) rest = base ++ (n, v) :: rest
    rw [set_of_notMem v hfirst, ih hadded.2 hrest, List.append_assoc, List.singleton_append]

/-- Members with different names are an object as they are. -/
theorem ofPairs_of_nodup {members : Members} (h : members.names.Nodup) : ofPairs members = members := by
  rw [ofPairs, overlay_of_nodup h (by simp [names]), List.nil_append]

/-- The names of two lists of members are the names of both in order. -/
theorem names_append (left right : Members) : names (left ++ right) = left.names ++ right.names :=
  List.map_append

/-- Leaving out null members leaves out names. -/
theorem names_compacted_sublist (members : Members) : (compacted members).names.Sublist members.names :=
  List.filter_sublist.map Prod.fst

end DocBuild.Members
