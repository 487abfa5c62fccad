import DocBuild.Build.Draft
import DocBuild.Proofs.Lookup
import DocBuild.Proofs.Text.Numeral

/-!
# The keys of enclosed files

Files that a call encloses get keys in order: the tag of the file followed by the next number. Keys with
different numbers differ whatever their tags are, so the numbered files have pairwise different keys and
every file is found again under its own key.
-/

namespace DocBuild

variable {α β : Type}

/-- What a key says about the file it stands for. -/
inductive KeyTag where
  | file
  | html
  | asset
deriving DecidableEq

/-- The text that a key starts with. -/
def KeyTag.text : KeyTag → Text
  | file => "file"
  | html => "html"
  | asset => "asset"

/-- No tag has a digit. -/
theorem KeyTag.isDigit_eq_false (tag : KeyTag) : ∀ c ∈ tag.text, c.isDigit = false := by
  cases tag <;> decide

/-- A file that a call encloses, with the tag of its key. -/
structure Enclosure where
  tag : KeyTag
  input : FileInput

/-- The key of an enclosed file that gets a number. -/
def Enclosure.key (e : Enclosure) (n : Nat) : Text := e.tag.text ++ Text.ofNat n

/-- Keys with different numbers differ. -/
theorem Enclosure.key_inj (e e' : Enclosure) (m n : Nat) (h : e.key m = e'.key n) : m = n :=
  Text.append_ofNat_inj e.tag.text e'.tag.text m n e.tag.isDigit_eq_false e'.tag.isDigit_eq_false h

/-- The enclosed files by key, numbered from `first` on. -/
def numbered (first : Nat) (enclosed : List Enclosure) : List (Text × FileInput) :=
  enclosed.mapIdx fun i e => (e.key (first + i), e.input)

/-- Nothing is numbered where nothing is enclosed. -/
@[simp] theorem numbered_nil (first : Nat) : numbered first [] = [] := rfl

/-- The first file gets the first number and the others the numbers after it. -/
@[simp] theorem numbered_cons (first : Nat) (e : Enclosure) (rest : List Enclosure) :
    numbered first (e :: rest) = (e.key first, e.input) :: numbered (first + 1) rest := by
  simp only [numbered, List.mapIdx_cons, Nat.add_zero, List.cons.injEq, true_and]
  exact congrArg (rest.mapIdx ·) (by funext i e'; rw [Nat.add_comm i 1, Nat.add_assoc])

/-- Numbering goes on where it stopped. -/
theorem numbered_append (first : Nat) (left right : List Enclosure) :
    numbered first (left ++ right) = numbered first left ++ numbered (first + left.length) right := by
  induction left generalizing first with
  | nil => rfl
  | cons e left ih =>
    simp only [List.cons_append, numbered_cons, ih, List.length_cons, Nat.add_assoc, Nat.add_comm 1]

/-- Every enclosed file gets a number. -/
@[simp] theorem numbered_length (first : Nat) (enclosed : List Enclosure) :
    (numbered first enclosed).length = enclosed.length := by
  simp [numbered]

/-- The numbered files are those that are enclosed, under keys with numbers from the first one on. -/
theorem exists_key_of_mem_numbered (first : Nat) (enclosed : List Enclosure) (entry : Text × FileInput)
    (h : entry ∈ numbered first enclosed) : ∃ n, ∃ e ∈ enclosed, first ≤ n ∧ entry = (e.key n, e.input) := by
  induction enclosed generalizing first with
  | nil => simp at h
  | cons e rest ih =>
    rw [numbered_cons, List.mem_cons] at h
    rcases h with rfl | h
    · exact ⟨first, e, List.mem_cons_self, Nat.le_refl first, rfl⟩
    · obtain ⟨n, e', he', hn, hkey⟩ := ih (first + 1) h
      exact ⟨n, e', List.mem_cons_of_mem _ he', by omega, hkey⟩

/-- The key with the first number is not used again. -/
theorem key_notMem_numbered_succ (first : Nat) (e : Enclosure) (rest : List Enclosure) :
    e.key first ∉ (numbered (first + 1) rest).map Prod.fst := by
  intro h
  obtain ⟨entry, hentry, hkey⟩ := List.mem_map.mp h
  obtain ⟨n, e', -, hn, rfl⟩ := exists_key_of_mem_numbered (first + 1) rest entry hentry
  have heq := Enclosure.key_inj e e' first n hkey.symm
  omega

/-- The keys of numbered files are pairwise different. -/
theorem numbered_keys_nodup (first : Nat) (enclosed : List Enclosure) :
    ((numbered first enclosed).map Prod.fst).Nodup := by
  induction enclosed generalizing first with
  | nil => exact List.nodup_nil
  | cons e rest ih =>
    rw [numbered_cons, List.map_cons, List.nodup_cons]
    exact ⟨key_notMem_numbered_succ first e rest, ih (first + 1)⟩

/-- A property holds of every element together with its number, the first element having number `n`. -/
def ForallFrom (P : Nat → α → Prop) : Nat → List α → Prop
  | _, [] => True
  | n, a :: rest => P n a ∧ ForallFrom P (n + 1) rest

/-- Numbering the elements of two lists goes on where the first one stops. -/
theorem forallFrom_append (P : Nat → α → Prop) (n : Nat) (left right : List α) :
    ForallFrom P n (left ++ right) ↔ ForallFrom P n left ∧ ForallFrom P (n + left.length) right := by
  induction left generalizing n with
  | nil => simp [ForallFrom]
  | cons a left ih =>
    have hnumber : n + 1 + left.length = n + (a :: left).length := by
      rw [List.length_cons]
      omega
    simp only [List.cons_append, ForallFrom, ih, hnumber, and_assoc]

/-- Numbered images have a property if what they are made of has it. -/
theorem forallFrom_map (P : Nat → β → Prop) (f : α → β) (n : Nat) (l : List α) :
    ForallFrom P n (l.map f) ↔ ForallFrom (fun k a => P k (f a)) n l := by
  induction l generalizing n with
  | nil => simp [ForallFrom]
  | cons a rest ih => simp only [List.map_cons, ForallFrom, ih]

/-- A weaker property holds where a stronger one does. -/
theorem ForallFrom.imp {P Q : Nat → α → Prop} (h : ∀ k a, P k a → Q k a) {n : Nat} {l : List α}
    (hP : ForallFrom P n l) : ForallFrom Q n l := by
  induction l generalizing n with
  | nil => trivial
  | cons a rest ih => exact ⟨h n a hP.1, ih hP.2⟩

/-- Each element has the property together with its own number. -/
theorem ForallFrom.getElem {P : Nat → α → Prop} {n : Nat} {l : List α} (h : ForallFrom P n l) (i : Nat)
    (hi : i < l.length) : P (n + i) l[i] := by
  induction l generalizing n i with
  | nil => simp at hi
  | cons a rest ih =>
    cases i with
    | zero => exact h.1
    | succ i =>
      have htail := ih h.2 i (by simpa using hi)
      rwa [Nat.add_assoc, Nat.add_comm 1 i] at htail

/-- Every enclosed file is among the numbered ones under its key. -/
theorem mem_numbered (first : Nat) (enclosed : List Enclosure) :
    ForallFrom (fun n e => (e.key n, e.input) ∈ numbered first enclosed) first enclosed := by
  induction enclosed generalizing first with
  | nil => trivial
  | cons e rest ih =>
    rw [numbered_cons]
    exact ⟨List.mem_cons_self, (ih (first + 1)).imp fun n e' h => List.mem_cons_of_mem _ h⟩

/-- Every numbered file is found under its own key. -/
theorem lookup_numbered (first : Nat) (enclosed : List Enclosure) :
    ForallFrom (fun n e => (numbered first enclosed).lookup (e.key n) = some e.input) first enclosed :=
  (mem_numbered first enclosed).imp fun _ _ h => lookup_eq_of_mem (numbered_keys_nodup first enclosed) h

end DocBuild
