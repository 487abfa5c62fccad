import DocBuild.Text.Blank
import DocBuild.Text.Quoted
import DocBuild.Text.Strict

/-!
# Environment files

A file of bindings `name=value`, one to a line, with comments after `#`. A line may start with `export`. A
value may stand in single or double quotes, and then run over several lines and hold escapes; without
quotes it ends before a comment or at the end of the line. A name may also stand alone and then has no value.
A line that is no binding is passed over. In a value `${name}` stands for the value of another binding, and
`${name:-other}` for `other` if there is none; a name without a value stands for nothing.
-/

namespace DocBuild.EnvFile

/-- The line feed, which ends a line. -/
def lineFeed : CodePoint := CodePoint.ofNat 0x0A

/-- The sign between name and value. -/
def equals : CodePoint := CodePoint.ofChar '='

/-- The sign that starts a comment. -/
def hash : CodePoint := CodePoint.ofChar '#'

/-- The text with each kind of line end made a line feed. -/
def unixLines : Text → Text
  | ⟨0x0D, _⟩ :: ⟨0x0A, _⟩ :: rest => lineFeed :: unixLines rest
  | ⟨0x0D, _⟩ :: rest => lineFeed :: unixLines rest
  | c :: rest => c :: unixLines rest
  | [] => []

/-- A blank inside a line. -/
def isGap (c : CodePoint) : Bool := c.isBlank && c ≠ lineFeed

/-- The text after the blanks of a line. -/
def skipGap (t : Text) : Text := t.dropWhile isGap

/-- The text after the end of the line. -/
def skipLine (t : Text) : Text := (t.dropWhile (· ≠ lineFeed)).tail

/-- The text after the word that may start a line. -/
def skipExport (t : Text) : Text :=
  let word : Text := "export"
  if word.isPrefixOf t && (t.drop word.length).head?.any isGap then skipGap (t.drop word.length) else t

/-- The character that an escape stands for between double quotation marks. -/
def escaped? (c : CodePoint) : Option CodePoint :=
  match Char.ofNat c.val with
  | '\\' => some '\\'
  | '"' => some '"'
  | 'a' => some (CodePoint.ofNat 0x07)
  | 'b' => some (CodePoint.ofNat 0x08)
  | 'f' => some (CodePoint.ofNat 0x0C)
  | 'n' => some (CodePoint.ofNat 0x0A)
  | 'r' => some (CodePoint.ofNat 0x0D)
  | 't' => some (CodePoint.ofNat 0x09)
  | 'v' => some (CodePoint.ofNat 0x0B)
  | _ => if c = Text.singleQuote then some Text.singleQuote else none

/-- The character that an escape stands for between the marks `mark`. -/
def escapedBy? (mark c : CodePoint) : Option CodePoint :=
  if mark = Text.doubleQuote then escaped? c
  else if c = Text.singleQuote ∨ c = Text.backslash then some c
  else none

/-- The text with its escapes resolved. -/
def unescape (mark : CodePoint) : Text → Text
  | [] => []
  | [c] => [c]
  | c :: d :: rest =>
    if c = Text.backslash then
      match escapedBy? mark d with
      | some e => e :: unescape mark rest
      | none => c :: unescape mark (d :: rest)
    else c :: unescape mark (d :: rest)

/-- What stands before the mark that closes a quotation, and the text after that mark. A backslash takes the
character after it along, so that a mark after a backslash closes nothing. -/
def untilMark (mark : CodePoint) : Text → Option (Text × Text)
  | [] => none
  | [c] => if c = mark then some ([], []) else none
  | c :: d :: rest =>
    if c = mark then some ([], d :: rest)
    else if c = Text.backslash then (untilMark mark rest).map fun r => (c :: d :: r.1, r.2)
    else (untilMark mark (d :: rest)).map fun r => (c :: r.1, r.2)

/-- The value in front of a comment. -/
def untilComment : Text → Text
  | [] => []
  | c :: rest =>
    if c.isBlank && (rest.dropWhile (·.isBlank)).head? = some hash then []
    else c :: untilComment rest

/-- Reads the value after the sign between name and value. A comment may take its place, if there is a blank
before the comment. -/
def scanValue (t : Text) : Option (Text × Text) :=
  match skipGap t with
  | [] => some ([], [])
  | c :: rest =>
    if c = hash ∧ t ≠ c :: rest then some ([], c :: rest)
    else if c = Text.singleQuote ∨ c = Text.doubleQuote then
      (untilMark c rest).map fun r => (unescape c r.1, r.2)
    else
      let line := (c :: rest).takeWhile (· ≠ lineFeed)
      some ((untilComment line).reverse.dropWhile (·.isBlank) |>.reverse, (c :: rest).drop line.length)

/-- Reads a name; there is none before a comment. -/
def scanName (t : Text) : Option (Option Text × Text) :=
  match t with
  | [] => none
  | c :: rest =>
    if c = hash then some (none, t)
    else if c = Text.singleQuote then
      let name := rest.takeWhile (· ≠ Text.singleQuote)
      if name.isEmpty || name.length = rest.length then none
      else some (some name, rest.drop (name.length + 1))
    else
      let name := t.takeWhile fun d => !(d = equals || d = hash || d.isBlank)
      if name.isEmpty then none else some (some name, t.drop name.length)

/-- The text after what may end a binding: a comment, blanks and the end of the line. -/
def scanEnd (t : Text) : Option Text :=
  let t := match skipGap t with
    | c :: rest => if c = hash then (c :: rest).dropWhile (· ≠ lineFeed) else t
    | [] => t
  match skipGap t with
  | [] => some []
  | c :: rest => if c = lineFeed then some rest else none

/-- A name with its value, if it has one. -/
abbrev Binding := Text × Option Text

/-- Reads a binding at the first character that is no blank; the text after it is shorter. -/
def scanBinding (t : Text) : Option Binding × Text :=
  match scanName (skipExport t) with
  | none => (none, skipLine (skipExport t))
  | some (name, rest) =>
    match skipGap rest with
    | c :: after =>
      if c = equals then
        match scanValue after with
        | none => (none, skipLine (skipGap after))
        | some (value, rest) =>
          match scanEnd rest with
          | some next => (name.map (·, some value), next)
          | none => (none, skipLine rest)
      else
        match scanEnd (c :: after) with
        | some next => (name.map (·, none), next)
        | none => (none, skipLine (c :: after))
    | [] => (name.map (·, none), [])

/-- Reads at most so many bindings. -/
def scanBindings : Nat → Text → List Binding
  | 0, _ => []
  | steps + 1, t =>
    match t.dropWhile (·.isBlank) with
    | [] => []
    | start =>
      let (binding, rest) := scanBinding start
      binding.toList ++ scanBindings steps rest

/-- The value of a name, the last one given for it, if the name is bound. -/
def lookupLast (name : Text) (bindings : List Binding) : Option (Option Text) :=
  bindings.reverse.lookup name

/-- What a reference stands for, if one follows the dollar sign, and the text after it. -/
def reference? (known : List Binding) (t : Text) : Option (Text × Text) :=
  match t with
  | ⟨0x7B, _⟩ :: rest =>
    let name := rest.takeWhile fun c => c.val ≠ 0x7D && c.val ≠ 0x3A
    match rest.drop name.length with
    | ⟨0x7D, _⟩ :: after => some (((lookupLast name known).getD none).getD [], after)
    | ⟨0x3A, _⟩ :: ⟨0x2D, _⟩ :: rest =>
      let other := rest.takeWhile (·.val ≠ 0x7D)
      match rest.drop other.length with
      | _ :: after => some (((lookupLast name known).getD (some other)).getD [], after)
      | [] => none
    | _ => none
  | _ => none

/-- The text with its references resolved; the first `skip` characters belong to the reference found
last. -/
def resolveFrom (known : List Binding) : Nat → Text → Text
  | _, [] => []
  | skip + 1, _ :: rest => resolveFrom known skip rest
  | 0, c :: rest =>
    match (if c.val = 0x24 then reference? known rest else none) with
    | some (value, after) => value ++ resolveFrom known (rest.length - after.length) rest
    | none => c :: resolveFrom known 0 rest

/-- The bindings with their references resolved by the environment and the bindings before them. -/
def resolveAll (known : List Binding) : List Binding → List Binding
  | [] => []
  | (name, value) :: rest =>
    let binding := (name, value.map (resolveFrom known 0))
    binding :: resolveAll (known ++ [binding]) rest

/-- Binds a name: in place if it is bound already, at the end otherwise. -/
def bind (bound : List Binding) (binding : Binding) : List Binding :=
  if (bound.lookup binding.1).isSome then
    bound.map fun b => if b.1 = binding.1 then binding else b
  else bound ++ [binding]

/-- The bindings of a file in an environment, one for each name. -/
def bindings (environment : List (Text × Text)) (t : Text) : List Binding :=
  let lines := unixLines t
  let known := environment.map fun b => (b.1, some b.2)
  (resolveAll known (scanBindings (lines.length + 1) lines)).foldl bind []

/-- The text of a file, without the mark that may stand in front of UTF-8. -/
def decode (content : Bytes) : Except DecodeError Text :=
  Utf8.decode (if List.isPrefixOf [0xEF, 0xBB, 0xBF] content then content.drop 3 else content)

end DocBuild.EnvFile
