import DocBuild.Json.Basic
import DocBuild.Text.Quoted
import DocBuild.Decimal.Shortest

/-!
# The two written forms of a value

The compact form is JSON text in ASCII. The displayed form is the one that messages and text outputs
show: words for null and the truth values, and quoted text inside lists and objects.
-/

namespace DocBuild.Json

/-- Floats in JSON text. -/
def compactFloats : Decimal.FloatStyle := ⟨"NaN", "Infinity", -4, 15⟩

/-- Floats in messages. -/
def displayedFloats : Decimal.FloatStyle := ⟨"nan", "inf", -4, 15⟩

/-- The escape of sixteen bits. -/
def escapeUnit (n : Nat) : Text := "\\u" ++ Text.hex 4 n

/-- The form of a code point between the quotes of JSON text. Beyond the first plane it is written as a
pair of surrogates. -/
def escapePoint (c : CodePoint) : Text :=
  if c.val = 0x22 then "\\\""
  else if c.val = 0x5C then "\\\\"
  else if c.val = 0x0A then "\\n"
  else if c.val = 0x0D then "\\r"
  else if c.val = 0x09 then "\\t"
  else if c.val = 0x0C then "\\f"
  else if c.val = 0x08 then "\\b"
  else if 0x20 ≤ c.val ∧ c.val < 0x7F then [c]
  else if c.val < 0x10000 then escapeUnit c.val
  else
    escapeUnit (0xD800 + (c.val - 0x10000) / 1024) ++ escapeUnit (0xDC00 + (c.val - 0x10000) % 1024)

/-- A text as JSON text. -/
def compactText (t : Text) : Text := "\"" ++ t.flatMap escapePoint ++ "\""

/-- A number as JSON text. -/
def compactNumber : Number → Text
  | .int n => Text.ofInt n
  | .flag b => if b then "true" else "false"
  | .float x => Decimal.text compactFloats x

/-- The name of an entry as JSON text: what is no text is written as it is and put between quotes. -/
def compactName : EntryName → Text
  | .null => "\"null\""
  | .number n => "\"" ++ compactNumber n ++ "\""
  | .text t => compactText t

mutual

/-- The value as JSON text, with a blank after each comma and colon. -/
def compact : Json → Text
  | .null => "null"
  | .bool true => "true"
  | .bool false => "false"
  | .int n => Text.ofInt n
  | .float x => Decimal.text compactFloats x
  | .str t => compactText t
  | .arr items => "[" ++ Text.join ", " (compactItems items) ++ "]"
  | .obj members => "\x7b" ++ Text.join ", " (compactMembers members) ++ "\x7d"
  | .table entries => "\x7b" ++ Text.join ", " (compactEntries entries) ++ "\x7d"

/-- The items of a list as JSON text. -/
def compactItems : List Json → List Text
  | [] => []
  | item :: rest => compact item :: compactItems rest

/-- The members of an object as JSON text. -/
def compactMembers : List (Text × Json) → List Text
  | [] => []
  | (name, value) :: rest => (compactText name ++ ": " ++ compact value) :: compactMembers rest

/-- The entries of a table as JSON text. -/
def compactEntries : List (EntryName × Json) → List Text
  | [] => []
  | (name, value) :: rest => (compactName name ++ ": " ++ compact value) :: compactEntries rest

end

/-- A number as it is shown. -/
def shownNumber : Number → Text
  | .int n => Text.ofInt n
  | .flag b => if b then "True" else "False"
  | .float x => Decimal.text displayedFloats x

/-- The name of an entry as it is shown. -/
def shownName : EntryName → Text
  | .null => "None"
  | .number n => shownNumber n
  | .text t => Text.quoted t

mutual

/-- The value as it is shown inside a message. -/
def shown : Json → Text
  | .null => "None"
  | .bool true => "True"
  | .bool false => "False"
  | .int n => Text.ofInt n
  | .float x => Decimal.text displayedFloats x
  | .str t => Text.quoted t
  | .arr items => "[" ++ Text.join ", " (shownItems items) ++ "]"
  | .obj members => "\x7b" ++ Text.join ", " (shownMembers members) ++ "\x7d"
  | .table entries => "\x7b" ++ Text.join ", " (shownEntries entries) ++ "\x7d"

/-- The items of a list as they are shown. -/
def shownItems : List Json → List Text
  | [] => []
  | item :: rest => shown item :: shownItems rest

/-- The members of an object as they are shown. -/
def shownMembers : List (Text × Json) → List Text
  | [] => []
  | (name, value) :: rest => (Text.quoted name ++ ": " ++ shown value) :: shownMembers rest

/-- The entries of a table as they are shown. -/
def shownEntries : List (EntryName × Json) → List Text
  | [] => []
  | (name, value) :: rest => (shownName name ++ ": " ++ shown value) :: shownEntries rest

end

/-- The value as text: a text is itself, anything else is as it is shown. -/
def display : Json → Text
  | .str t => t
  | value => shown value

example : compact (.obj [("a", .arr [.int (-1), .null]), ("é", .str "\"")]) =
    "\x7b\"a\": [-1, null], \"\\u00e9\": \"\\\"\"\x7d" := by decide

example : shown (.arr [.str "it's", .bool true]) = "[\"it's\", True]" := by decide

end DocBuild.Json
