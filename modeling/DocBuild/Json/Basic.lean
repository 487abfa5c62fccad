import DocBuild.Number

/-!
# JSON values

The values that options, metadata, instructions and answers are made of. Whole numbers are exact and
differ from floats; the members of an object keep the order in which their names first appeared. A mapping
that a caller builds may also have names that are no text; it is called a table.
-/

namespace DocBuild

/-- The name of an entry of a table. -/
inductive EntryName where
  | null
  | number (n : Number)
  | text (t : Text)

/-- Whether two names mean the same entry. Numbers do if they amount to the same. -/
def EntryName.same : EntryName → EntryName → Bool
  | null, null => true
  | number a, number b => a.same b
  | text a, text b => a = b
  | _, _ => false

/-- A JSON value. -/
inductive Json where
  | null
  | bool (b : Bool)
  | int (n : Int)
  | float (x : Float)
  | str (t : Text)
  | arr (items : List Json)
  | obj (members : List (Text × Json))
  | table (entries : List (EntryName × Json))
deriving Inhabited

/-- The members of an object in order. -/
abbrev Members := List (Text × Json)

namespace Members

/-- One member. -/
def single (name : Text) (value : Json) : Members := [(name, value)]

/-- The value of a member. -/
def get? (name : Text) (members : Members) : Option Json := members.lookup name

/-- Gives a member a value: in place if the name is there already, at the end otherwise. -/
def set (name : Text) (value : Json) : Members → Members
  | [] => [(name, value)]
  | (n, v) :: rest => if n = name then (n, value) :: rest else (n, v) :: set name value rest

/-- Gives a member a value unless the name is there already. -/
def setDefault (name : Text) (value : Json) (members : Members) : Members :=
  if (members.get? name).isSome then members else members.set name value

/-- The members of `base` with those of `added` set one after the other. -/
def overlay (base added : Members) : Members := added.foldl (fun ms m => ms.set m.1 m.2) base

/-- The members given one after the other; a name keeps its first place and its last value. -/
def ofPairs (pairs : List (Text × Json)) : Members := overlay [] pairs

/-- The members that have a value other than null. -/
def compacted (members : Members) : Members :=
  members.filter fun m => match m.2 with
    | .null => false
    | _ => true

@[simp] theorem get?_set_self (name : Text) (value : Json) (ms : Members) :
    (ms.set name value).get? name = some value := by
  induction ms with
  | nil => simp [set, get?]
  | cons m rest ih =>
    obtain ⟨n, v⟩ := m
    by_cases h : n = name
    · subst h; simp [set, get?]
    · have hb : (name == n) = false := beq_false_of_ne fun e => h e.symm
      simpa [set, get?, h, List.lookup_cons, hb] using ih

theorem get?_set_of_ne {name other : Text} (h : other ≠ name) (value : Json) (ms : Members) :
    (ms.set name value).get? other = ms.get? other := by
  induction ms with
  | nil => simp [set, get?, List.lookup_cons, beq_false_of_ne h]
  | cons m rest ih =>
    obtain ⟨n, v⟩ := m
    by_cases hn : n = name
    · subst hn; simp [set, get?, List.lookup_cons, beq_false_of_ne h]
    · simp only [set, if_neg hn, get?, List.lookup_cons]
      split
      · rfl
      · exact ih

end Members

/-- A number as a value. -/
def Number.toJson : Number → Json
  | .int n => .int n
  | .flag b => .bool b
  | .float x => .float x

/-- The name of an entry as a value. -/
def EntryName.toJson : EntryName → Json
  | .null => .null
  | .number n => n.toJson
  | .text t => .str t

namespace Json

/-- A text, or null if there is none. -/
def ofText? : Option Text → Json
  | some t => .str t
  | none => .null

/-- A whole number, or null if there is none. -/
def ofInt? : Option Int → Json
  | some n => .int n
  | none => .null

/-- An object, or null if there is none. -/
def ofMembers? : Option Members → Json
  | some members => .obj members
  | none => .null

/-- Null, false, zero and whatever is empty do not count as given. -/
def isGiven : Json → Bool
  | .null => false
  | .bool b => b
  | .int n => n ≠ 0
  | .float x => !(x == 0.0)
  | .str t => !t.isEmpty
  | .arr items => !items.isEmpty
  | .obj members => !members.isEmpty
  | .table entries => !entries.isEmpty

/-- Whether a value is null. -/
def isNull : Json → Bool
  | .null => true
  | _ => false

/-- Whether a value is the given text. -/
def isText (t : Text) : Json → Bool
  | .str s => s = t
  | _ => false

/-- The name by which messages call the kind of a value. -/
def kindName : Json → Text
  | .null => "NoneType"
  | .bool _ => "bool"
  | .int _ => "int"
  | .float _ => "float"
  | .str _ => "str"
  | .arr _ => "list"
  | .obj _ | .table _ => "dict"

/-- The number that a value is. -/
def number? : Json → Option Number
  | .bool b => some (.flag b)
  | .int n => some (.int n)
  | .float x => some (.float x)
  | _ => none

/-- The error of a value that was to be compared with a number, or added to one. -/
def notNumber (value : Json) : ForeignError :=
  ⟨.type, "a number is wanted, not '" ++ value.kindName ++ "'"⟩

/-- The number that a value has to be. -/
def number (value : Json) : Except ForeignError Number :=
  match value.number? with
  | some n => .ok n
  | none => .error value.notNumber

/-- Whether a value amounts to the whole number `n`. -/
def isNumber (n : Int) (value : Json) : Bool := value.number?.any (·.same (.int n))

/-- The items that a value consists of. A mapping consists of its names. -/
def items? : Json → Option (List Json)
  | .arr items => some items
  | .obj members => some (members.map fun m => .str m.1)
  | .table entries => some (entries.map fun e => e.1.toJson)
  | .str t => some (t.map fun c => .str [c])
  | _ => none

/-- The items that a value has to consist of. -/
def items (value : Json) : Except ForeignError (List Json) :=
  match value.items? with
  | some items => .ok items
  | none => .error (.notIterable value.kindName)

end Json

end DocBuild
