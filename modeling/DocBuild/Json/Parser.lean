import DocBuild.Json.Basic
import DocBuild.Decimal.Limit
import DocBuild.Decimal.Shortest

/-!
# Reading JSON text

The reader accepts the standard grammar and, as numbers, `NaN`, `Infinity` and `-Infinity`. Of members
with one name the last value counts, at the place of the first. What it refuses it refuses with a
complaint and the place of the complaint, given as the length of the text that remains there.

Three limits belong to the format: control characters may not stand in a string, a numeral has at most
`maxDigits` digits, and values nest at most `maxDepth` deep.
-/

namespace DocBuild.Json

/-- What was expected, or is wrong, at a place of the text. -/
inductive Complaint where
  | value
  | name
  | comma
  | colon
  | extraData
  | unterminated
  | controlCharacter
  | escape
  | unicodeEscape
deriving DecidableEq

/-- The words for a complaint. -/
def Complaint.message : Complaint → Text
  | .value => "Expecting value"
  | .name => "Expecting property name enclosed in double quotes"
  | .comma => "Expecting ',' delimiter"
  | .colon => "Expecting ':' delimiter"
  | .extraData => "Extra data"
  | .unterminated => "Unterminated string starting at"
  | .controlCharacter => "Invalid control character at"
  | .escape => "Invalid \\escape"
  | .unicodeEscape => "Invalid \\uXXXX escape"

/-- Why a text was refused. -/
inductive ParseError where
  | misplaced (complaint : Complaint) (remaining : Nat)
  | tooManyDigits (numeral : LongNumeral)
  | tooDeep (isObject : Bool)
deriving DecidableEq

/-- The greatest number of lists and objects around a value. -/
def maxDepth : Nat := 970

/-- The blanks between the tokens of JSON text. -/
def isLayout (c : CodePoint) : Bool := c.val = 0x20 || c.val = 0x09 || c.val = 0x0A || c.val = 0x0D

/-- The text after the blanks it starts with. -/
def skipLayout (s : Text) : Text := s.dropWhile isLayout

/-- The text after a keyword that it starts with. -/
def afterWord? (word : Text) (s : Text) : Option Text :=
  if word.isPrefixOf s then some (s.drop word.length) else none

/-- The number that four hexadecimal digits at the front of a text denote. -/
def fourHex? : Text → Option Nat
  | a :: b :: c :: d :: _ => do
    let a ← a.hexValue?
    let b ← b.hexValue?
    let c ← c.hexValue?
    let d ← d.hexValue?
    some (((a * 16 + b) * 16 + c) * 16 + d)
  | _ => none

/-- The code point that a letter after a backslash stands for. -/
def simpleEscape? (c : CodePoint) : Option CodePoint :=
  if c.val = 0x22 ∨ c.val = 0x5C ∨ c.val = 0x2F then some c
  else if c.val = 0x62 then some (CodePoint.ofNat 0x08)
  else if c.val = 0x66 then some (CodePoint.ofNat 0x0C)
  else if c.val = 0x6E then some (CodePoint.ofNat 0x0A)
  else if c.val = 0x72 then some (CodePoint.ofNat 0x0D)
  else if c.val = 0x74 then some (CodePoint.ofNat 0x09)
  else none

/-- The low surrogate that an escape at the front of `s` stands for, if one must be looked for: there
has to be a backslash, a `u`, four digits and something after them. -/
def lowSurrogate? (s : Text) : Except ParseError (Option Nat) :=
  match s with
  | ⟨0x5C, _⟩ :: ⟨0x75, h⟩ :: digits =>
    if digits.length < 5 then .ok none
    else
      match fourHex? digits with
      | none => .error (.misplaced .unicodeEscape (⟨0x75, h⟩ :: digits).length)
      | some n => .ok (if 0xDC00 ≤ n ∧ n < 0xE000 then some n else none)
  | _ => .ok none

/-- The code point of an escape, given the text after its `u`, and the number of code points that the
escape takes from there. -/
def unicodeEscape (s : Text) : Except ParseError (CodePoint × Nat) :=
  if s.length < 5 then .error (.misplaced .unicodeEscape (s.length + 1))
  else
    match fourHex? s with
    | none => .error (.misplaced .unicodeEscape (s.length + 1))
    | some high =>
      if 0xD800 ≤ high ∧ high < 0xDC00 then
        match lowSurrogate? (s.drop 4) with
        | .error e => .error e
        | .ok (some low) =>
          .ok (CodePoint.ofNat (0x10000 + (high - 0xD800) * 1024 + (low - 0xDC00)), 10)
        | .ok none => .ok (CodePoint.ofNat high, 4)
      else .ok (CodePoint.ofNat high, 4)

/-- The code point of an escape, given the text after its backslash, and the number of code points that
the escape takes from there. `opened` is where the string began. -/
def escapeAt (opened : Nat) (s : Text) : Except ParseError (CodePoint × Nat) :=
  match s with
  | [] => .error (.misplaced .unterminated opened)
  | c :: rest =>
    if c.val = 0x75 then (unicodeEscape rest).map fun r => (r.1, r.2 + 1)
    else
      match simpleEscape? c with
      | some c => .ok (c, 1)
      | none => .error (.misplaced .escape (s.length + 1))

/-- Reads a string after its opening quote: the text up to the closing quote, and the rest. `read` holds
in reverse what was read, and the first `skip` code points belong to the escape read last. -/
def scanString (opened : Nat) (read : Text) : Nat → Text → Except ParseError (Text × Text)
  | _, [] => .error (.misplaced .unterminated opened)
  | skip + 1, _ :: rest => scanString opened read skip rest
  | 0, c :: rest =>
    if c.val = 0x22 then .ok (read.reverse, rest)
    else if c.val = 0x5C then
      match escapeAt opened rest with
      | .error e => .error e
      | .ok (point, taken) => scanString opened (point :: read) taken rest
    else if c.val < 0x20 then .error (.misplaced .controlCharacter (rest.length + 1))
    else scanString opened (c :: read) 0 rest

/-- The digits of a fraction and the text after them; without a digit after the point there is none. -/
def scanFraction (s : Text) : Text × Text :=
  match s with
  | ⟨0x2E, _⟩ :: rest =>
    let digits := rest.takeWhile (·.isDigit)
    if digits.isEmpty then ([], s) else (digits, rest.drop digits.length)
  | _ => ([], s)

/-- An exponent and the text after it; without a digit there is none. -/
def scanExponent (s : Text) : Option (Int × Text) :=
  match s with
  | e :: rest =>
    if e.val = 0x65 ∨ e.val = 0x45 then
      let (negative, unsigned) := match rest with
        | ⟨0x2D, _⟩ :: r => (true, r)
        | ⟨0x2B, _⟩ :: r => (false, r)
        | r => (false, r)
      let digits := unsigned.takeWhile (·.isDigit)
      if digits.isEmpty then none
      else
        let size : Int := Text.digitsValue digits
        some (if negative then -size else size, unsigned.drop digits.length)
    else none
  | [] => none

/-- Reads a number after its sign. -/
def scanUnsigned (negative : Bool) (s : Text) : Option (Except ParseError (Json × Text)) :=
  let digits : Text := match s with
    | ⟨0x30, h⟩ :: _ => [⟨0x30, h⟩]
    | _ => s.takeWhile (·.isDigit)
  if digits.isEmpty then none
  else
    let afterWhole := s.drop digits.length
    let (fraction, afterFraction) := scanFraction afterWhole
    let exponent := scanExponent afterFraction
    some <|
      match fraction, exponent with
      | [], none =>
        if maxDigits < digits.length then .error (.tooManyDigits ⟨digits.length⟩)
        else
          let n : Int := Text.digitsValue digits
          .ok (.int (if negative then -n else n), afterWhole)
      | fraction, exponent =>
        let (power, rest) := exponent.getD (0, afterFraction)
        let x := Decimal.toFloat negative (Text.digitsValue (digits ++ fraction)) (power - fraction.length)
        .ok (.float x, rest)

/-- The values that are written as words, with the rest of the text. -/
def scanWord (s : Text) : Option (Json × Text) :=
  (afterWord? "null" s).map (.null, ·) <|>
  (afterWord? "true" s).map (.bool true, ·) <|>
  (afterWord? "false" s).map (.bool false, ·) <|>
  (afterWord? "NaN" s).map (.float (0.0 / 0.0), ·) <|>
  (afterWord? "Infinity" s).map (.float (1.0 / 0.0), ·) <|>
  (afterWord? "-Infinity" s).map (.float (-1.0 / 0.0), ·)

/-- Reads a number or a word. -/
def scanAtom (s : Text) : Except ParseError (Json × Text) :=
  match scanWord s with
  | some r => .ok r
  | none =>
    let number := match s with
      | ⟨0x2D, _⟩ :: rest => scanUnsigned true rest
      | _ => scanUnsigned false s
    match number with
    | some r => r
    | none => .error (.misplaced .value s.length)

mutual

/-- Reads a value at the front of a text. The first argument bounds the steps, the second the depth. -/
def scanValue : Nat → Nat → Text → Except ParseError (Json × Text)
  | 0, _, s => .error (.misplaced .value s.length)
  | steps + 1, depth, s =>
    match s with
    | ⟨0x22, _⟩ :: rest => (scanString s.length [] 0 rest).map fun r => (.str r.1, r.2)
    | ⟨0x5B, _⟩ :: rest =>
      match depth, skipLayout rest with
      | 0, _ => .error (.tooDeep false)
      | _ + 1, ⟨0x5D, _⟩ :: rest => .ok (.arr [], rest)
      | depth + 1, rest => (scanItems steps depth [] rest).map fun r => (.arr r.1, r.2)
    | ⟨0x7B, _⟩ :: rest =>
      match depth, skipLayout rest with
      | 0, _ => .error (.tooDeep true)
      | _ + 1, ⟨0x7D, _⟩ :: rest => .ok (.obj [], rest)
      | depth + 1, rest =>
        (scanMembers steps depth [] rest).map fun r => (.obj (Members.ofPairs r.1), r.2)
    | _ => scanAtom s

/-- Reads the items of a list up to its closing bracket; `read` holds in reverse what was read. -/
def scanItems : Nat → Nat → List Json → Text → Except ParseError (List Json × Text)
  | 0, _, _, s => .error (.misplaced .value s.length)
  | steps + 1, depth, read, s =>
    match scanValue steps depth s with
    | .error e => .error e
    | .ok (item, rest) =>
      match skipLayout rest with
      | ⟨0x5D, _⟩ :: rest => .ok ((item :: read).reverse, rest)
      | ⟨0x2C, _⟩ :: rest => scanItems steps depth (item :: read) (skipLayout rest)
      | rest => .error (.misplaced .comma rest.length)

/-- Reads the members of an object up to its closing brace; `read` holds in reverse what was read. -/
def scanMembers : Nat → Nat → Members → Text → Except ParseError (Members × Text)
  | 0, _, _, s => .error (.misplaced .name s.length)
  | steps + 1, depth, read, s =>
    match s with
    | ⟨0x22, _⟩ :: rest =>
      match scanString s.length [] 0 rest with
      | .error e => .error e
      | .ok (name, rest) =>
        match skipLayout rest with
        | ⟨0x3A, _⟩ :: rest =>
          match scanValue steps depth (skipLayout rest) with
          | .error e => .error e
          | .ok (value, rest) =>
            match skipLayout rest with
            | ⟨0x7D, _⟩ :: rest => .ok (((name, value) :: read).reverse, rest)
            | ⟨0x2C, _⟩ :: rest => scanMembers steps depth ((name, value) :: read) (skipLayout rest)
            | rest => .error (.misplaced .comma rest.length)
        | rest => .error (.misplaced .colon rest.length)
    | _ => .error (.misplaced .name s.length)

end

/-- Reads a text that is one value with blanks around it. Every step but one in two consumes a code
point, so the steps allowed are never used up. -/
def parse (s : Text) : Except ParseError Json :=
  let start := skipLayout s
  match scanValue (2 * start.length + 2) maxDepth start with
  | .error e => .error e
  | .ok (value, rest) =>
    match skipLayout rest with
    | [] => .ok value
    | rest => .error (.misplaced .extraData rest.length)

/-- The line and the column of a place, both counted from one. -/
def lineAndColumn (before : Text) : Nat × Nat :=
  (before.countP (·.val = 0x0A) + 1, (before.reverse.takeWhile (·.val ≠ 0x0A)).length + 1)

/-- The words for a refusal of the text `s`. -/
def ParseError.message (s : Text) : ParseError → Text
  | .misplaced complaint remaining =>
    let place := s.length - remaining
    let (line, column) := lineAndColumn (s.take place)
    complaint.message ++ ": line " ++ Text.ofNat line ++ " column " ++ Text.ofNat column ++
      " (char " ++ Text.ofNat place ++ ")"
  | .tooManyDigits numeral => numeral.message
  | .tooDeep isObject =>
    "maximum recursion depth exceeded while decoding a JSON " ++
      (if isObject then "object" else "array") ++ " from a unicode string"

end DocBuild.Json
