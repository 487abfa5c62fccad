import DocBuild.Text.Blank
import DocBuild.Text.Charset
import DocBuild.Url.Percent

/-!
# Media types

A media type has parameters behind semicolons. A value that is long or not ASCII comes in numbered segments,
and with percent escapes; such a value begins with its character set and its language. One of the parameters
names the character set of the content.
-/

namespace DocBuild

/-- A parameter of a media type as it is written. -/
structure MediaParameter where
  name : Text
  value : Text

namespace MediaParameter

/-- The texts between semicolons that are not in quotation marks. An escaped quotation mark is none. -/
def split (quoted : Bool) (current : Text) : Text → List Text
  | [] => [current.reverse]
  | c :: rest =>
    if c.val = 0x3B ∧ !quoted then current.reverse :: split false [] rest
    else
      let isMark := c.val = 0x22 && !current.head?.any (·.val = 0x5C)
      split (quoted != isMark) (c :: current) rest

/-- A parameter from its text. Without an equals sign it has an empty value. -/
def ofText (t : Text) : MediaParameter :=
  match Text.breakAt? (CodePoint.ofChar '=') t with
  | some (name, value) => ⟨Text.lowerAscii (Text.trim name), Text.trim value⟩
  | none => ⟨Text.trim t, []⟩

/-- The text with each pair of a backslash and `sign` made into `sign`. -/
def unescaped (sign : CodePoint) : Text → Text
  | a :: b :: rest =>
    if a.val = 0x5C ∧ b = sign then sign :: unescaped sign rest else a :: unescaped sign (b :: rest)
  | t => t

/-- A value without the quotation marks or the angle brackets around it. -/
def unquoted (value : Text) : Text :=
  match value with
  | [] => []
  | first :: rest =>
    let isClosedBy (sign : Nat) := rest.getLast?.any (·.val = sign)
    if first.val = 0x22 ∧ isClosedBy 0x22 then
      unescaped (CodePoint.ofChar '"') (unescaped (CodePoint.ofChar '\\') rest.dropLast)
    else if first.val = 0x3C ∧ isClosedBy 0x3E then rest.dropLast
    else value

end MediaParameter

/-- A segment of a value: its number if it has one, its text, and whether percent escapes are in it. -/
structure MediaSegment where
  number : Option Nat
  value : Text
  isEscaped : Bool

namespace MediaSegment

/-- A character of a word. -/
def isWordSign (c : CodePoint) : Bool := c.isLetter || c.isDigit || c.val = 0x5F

/-- The name and the segment of a parameter that is a segment: an asterisk follows its name, and then possibly
a number and another asterisk. -/
def ofParameter? (p : MediaParameter) : Option (Text × MediaSegment) :=
  let name := p.name.takeWhile isWordSign
  match name, p.name.dropWhile isWordSign with
  | _ :: _, ⟨0x2A, _⟩ :: rest =>
    let segment (number : Option Nat) (isEscaped : Bool) : Option (Text × MediaSegment) :=
      some (name, ⟨number, MediaParameter.unquoted p.value, isEscaped⟩)
    let digits := rest.takeWhile (·.isDigit)
    match digits, rest.dropWhile (·.isDigit) with
    | [], [] => segment none true
    | _ :: _, [] => segment (some (Text.digitsValue digits)) false
    | _ :: _, [⟨0x2A, _⟩] => segment (some (Text.digitsValue digits)) true
    | _, _ => none
  | _, _ => none

/-- The order of texts by their first differing code points. -/
def textOrder (a b : Text) : Ordering := compare (a.map (·.val)) (b.map (·.val))

/-- The order of segments: by number, then by text, then unescaped before escaped ones. -/
def order (a b : MediaSegment) : Ordering :=
  ((compare (a.number.getD 0) (b.number.getD 0)).then (textOrder a.value b.value)).then
    (compare a.isEscaped.toNat b.isEscaped.toNat)

/-- The kind of a segment's number, in the words of an error. -/
def numberKind (s : MediaSegment) : Text := if s.number.isSome then "int" else "NoneType"

/-- The segments in order. Segments with a number have no order with those without one. -/
def sorted (segments : List MediaSegment) : Except ForeignError (List MediaSegment) :=
  match segments with
  | [] => .ok []
  | first :: rest =>
    match rest.find? fun s => s.number.isSome != first.number.isSome with
    | some other =>
      .error ⟨.type, "'<' not supported between instances of '" ++ other.numberKind ++ "' and '" ++
        first.numberKind ++ "'"⟩
    | none => .ok (segments.mergeSort fun a b => order a b != .gt)

/-- The text of a segment. Its escapes stand for the first characters of Unicode. -/
def text (s : MediaSegment) : Text :=
  if s.isEscaped then (Url.unescape s.value).map CodePoint.ofByte else s.value

end MediaSegment

/-- The value of a parameter: a text, or octets in a character set, given as the first characters of
Unicode. -/
inductive MediaValue where
  | plain (t : Text)
  | octets (charset : Option Text) (t : Text)

namespace MediaValue

/-- The value of a name that segments spell together. A value with escapes begins with the character set and
the language, each with an apostrophe behind it. -/
def ofSegments (segments : List MediaSegment) : Except ForeignError MediaValue := do
  let segments ← MediaSegment.sorted segments
  let t := segments.flatMap MediaSegment.text
  if segments.any (·.isEscaped) then
    match Text.breakAt? (CodePoint.ofChar '\'') t with
    | some (charset, rest) =>
      match Text.breakAt? (CodePoint.ofChar '\'') rest with
      | some (_, value) => return .octets (some charset) value
      | none => return .octets none t
    | none => return .octets none t
  else return .plain t

end MediaValue

namespace MediaType

/-- Adds a segment to those of its name. -/
def addSegment (found : List (Text × List MediaSegment)) (entry : Text × MediaSegment) :
    List (Text × List MediaSegment) :=
  match found.lookup entry.1 with
  | none => found ++ [(entry.1, [entry.2])]
  | some _ => found.map fun f => if f.1 = entry.1 then (f.1, f.2 ++ [entry.2]) else f

/-- The parameters of a media type with their values. Those in segments come last; what stands in front of the
first semicolon is a parameter too, but never a segment. -/
def parameters (mediaType : Text) : Except ForeignError (List (Text × MediaValue)) := do
  let written := (MediaParameter.split false [] mediaType).map MediaParameter.ofText
  let plain (p : MediaParameter) := (p.name, MediaValue.plain (MediaParameter.unquoted p.value))
  let rest := written.drop 1
  let segments := (rest.filterMap MediaSegment.ofParameter?).foldl addSegment []
  let joined ← segments.mapM fun (name, segments) => return (name, ← MediaValue.ofSegments segments)
  return (written.take 1).map plain ++
    (rest.filter fun p => (MediaSegment.ofParameter? p).isNone).map plain ++ joined

/-- The text of a value. Octets that are no text in their character set are kept as they are. -/
def textOf : MediaValue → Except ForeignError Text
  | .plain t => .ok t
  | .octets charset t => do
    let name : Text := match charset with
      | some (c :: rest) => c :: rest
      | _ => "us-ascii"
    let charset? ← Charset.ofName? name
    return (charset?.bind fun c => c.strict? (t.map fun c => UInt8.ofNat c.val)).getD t

/-- The name of the character set that a media type announces. One that is not ASCII counts as none. -/
def charsetName? (mediaType : Text) : Except ForeignError (Option Text) := do
  let isCharset (p : Text × MediaValue) := Text.lowerAscii p.1 = "charset"
  match (← parameters mediaType).find? isCharset with
  | none => return none
  | some (_, value) =>
    let name ← textOf value
    return if name.all (·.val < 0x80) then some (Text.lowerAscii name) else none

/-- The character set of a text with a media type. -/
def charset (mediaType : Option Text) : Except ForeignError Charset := do
  match mediaType with
  | none => return .utf8
  | some mediaType =>
    match ← charsetName? mediaType with
    | none => return .utf8
    | some name => return (← Charset.ofName? name).getD .utf8

end MediaType

end DocBuild
