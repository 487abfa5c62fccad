import DocBuild.Fault

/-!
# Layouts

A layout is a mapping. An object is one, and so is a list of pairs, where a pair is a list of two items,
an object with two members or a text of two characters. Of several pairs with the same name the first gives
the place and the last the value.
-/

namespace DocBuild.Layout

/-- The name that a value makes. -/
def name? : Json → Option EntryName
  | .null => some .null
  | .str t => some (.text t)
  | value => value.number?.map .number

/-- The pair that the value at a place of a list makes. -/
def pair (place : Nat) (value : Json) : Except ForeignError (EntryName × Json) :=
  let element : Text := "dictionary update sequence element #" ++ Text.ofNat place
  match value.items? with
  | none =>
    .error ⟨.type, "cannot convert dictionary update sequence element #" ++ Text.ofNat place ++
      " to a sequence"⟩
  | some [key, item] =>
    match name? key with
    | some name => .ok (name, item)
    | none => .error (.notKey key.kindName)
  | some items =>
    .error ⟨.value, element ++ " has length " ++ Text.ofNat items.length ++ "; 2 is required"⟩

/-- The pairs that the values of a list make, from a place on. -/
def pairs (place : Nat) : List Json → Except ForeignError (List (EntryName × Json))
  | [] => .ok []
  | value :: rest => do
    let first ← pair place value
    return first :: (← pairs (place + 1) rest)

/-- Gives a name a value: in place if the name is there already, at the end otherwise. -/
def set (entries : List (EntryName × Json)) (entry : EntryName × Json) : List (EntryName × Json) :=
  if entries.any fun e => e.1.same entry.1 then
    entries.map fun e => if e.1.same entry.1 then (e.1, entry.2) else e
  else entries ++ [entry]

/-- The members that entries are if all their names are texts. -/
def members? (entries : List (EntryName × Json)) : Option Members :=
  entries.mapM fun e => match e.1 with
    | .text t => some (t, e.2)
    | _ => none

/-- The mapping that entries are. -/
def ofEntries (entries : List (EntryName × Json)) : Json :=
  match members? entries with
  | some members => .obj members
  | none => .table entries

/-- The mapping that a value makes. -/
def mapping (value : Json) : Except ForeignError Json :=
  match value with
  | .obj members => .ok (.obj members)
  | .table entries => .ok (.table entries)
  | value => do return ofEntries ((← pairs 0 (← value.items)).foldl set [])

end DocBuild.Layout
