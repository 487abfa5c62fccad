/-!
# Text and bytes

Text is a list of Unicode code points. Surrogates count as code points, because a JSON answer may
hold one alone and it has to reach the caller unchanged. String literals coerce to text, so messages
are written as `"Page index " ++ Text.ofInt i ++ " is out of bounds"`.
-/

namespace DocBuild

/-- A Unicode code point, surrogates included. -/
structure CodePoint where
  val : Nat
  val_lt : val < 0x110000
deriving DecidableEq

/-- Text is a list of code points. -/
abbrev Text := List CodePoint

/-- Binary content is a list of octets. -/
abbrev Bytes := List UInt8

namespace CodePoint

/-- The code point of a character. -/
def ofChar (c : Char) : CodePoint :=
  ⟨c.toNat, by
    have h : c.toNat < 0xd800 ∨ 0xdfff < c.toNat ∧ c.toNat < 0x110000 := c.valid
    omega⟩

instance : Coe Char CodePoint := ⟨ofChar⟩

/-- The replacement character, which stands for whatever could not be decoded. -/
def replacement : CodePoint := ⟨0xFFFD, by decide⟩

/-- The code point with a given number; a number that is none gives the replacement character. -/
def ofNat (n : Nat) : CodePoint := if h : n < 0x110000 then ⟨n, h⟩ else replacement

/-- The code point whose number is an octet. -/
def ofByte (b : UInt8) : CodePoint := ofNat b.toNat

/-- A decimal digit of ASCII. -/
def isDigit (c : CodePoint) : Bool := 0x30 ≤ c.val && c.val ≤ 0x39

/-- A letter of ASCII. -/
def isLetter (c : CodePoint) : Bool :=
  (0x41 ≤ c.val && c.val ≤ 0x5A) || (0x61 ≤ c.val && c.val ≤ 0x7A)

/-- The value of a hexadecimal digit. -/
def hexValue? (c : CodePoint) : Option Nat :=
  if 0x30 ≤ c.val && c.val ≤ 0x39 then some (c.val - 0x30)
  else if 0x41 ≤ c.val && c.val ≤ 0x46 then some (c.val - 0x37)
  else if 0x61 ≤ c.val && c.val ≤ 0x66 then some (c.val - 0x57)
  else none

/-- The lower-case hexadecimal digit of a value below sixteen. -/
def hexDigit (n : Nat) : CodePoint := if n < 10 then ofNat (0x30 + n) else ofNat (0x57 + n)

theorem ofNat_val (c : CodePoint) : ofNat c.val = c := by
  simp [ofNat, c.val_lt]

end CodePoint

namespace Text

/-- The code points of a string. -/
def ofString (s : String) : Text := s.toList.map CodePoint.ofChar

instance : Coe String Text := ⟨ofString⟩

/-- The decimal numeral of a natural number. -/
def ofNat (n : Nat) : Text := (Nat.toDigits 10 n).map CodePoint.ofChar

/-- The decimal numeral of an integer, with a hyphen before a negative one. -/
def ofInt : Int → Text
  | .ofNat n => ofNat n
  | .negSucc n => CodePoint.ofChar '-' :: ofNat (n + 1)

/-- The number that a run of decimal digits denotes. -/
def digitsValue (digits : Text) : Nat := digits.foldl (fun n d => 10 * n + (d.val - 0x30)) 0

/-- The lower-case hexadecimal numeral of `n` with exactly `width` digits. -/
def hex (width n : Nat) : Text :=
  (List.range width).reverse.map fun i => CodePoint.hexDigit (n / Nat.pow 16 i % 16)

/-- The texts one after the other, with `separator` between neighbours. -/
def join (separator : Text) : List Text → Text
  | [] => []
  | [t] => t
  | t :: rest => t ++ separator ++ join separator rest

/-- The text without the copies of `c` it starts with. -/
def dropLeading (c : CodePoint) (t : Text) : Text := t.dropWhile (· = c)

/-- The text without the copies of `c` it ends with. -/
def dropTrailing (c : CodePoint) (t : Text) : Text := (dropLeading c t.reverse).reverse

/-- The pieces between the occurrences of `c`; there is one more piece than occurrences. -/
def splitAt (c : CodePoint) (t : Text) : List Text :=
  let step := fun (x : CodePoint) (pieces : List Text) =>
    if x = c then [] :: pieces
    else match pieces with
      | [] => [[x]]
      | piece :: rest => (x :: piece) :: rest
  t.foldr step [[]]

/-- The text before the first `c` and the text after it, if `c` occurs. -/
def breakAt? (c : CodePoint) (t : Text) : Option (Text × Text) :=
  match t.dropWhile (· ≠ c) with
  | [] => none
  | _ :: rest => some (t.takeWhile (· ≠ c), rest)

/-- The text with the capitals of ASCII made small. -/
def lowerAscii (t : Text) : Text :=
  t.map fun c => if 0x41 ≤ c.val && c.val ≤ 0x5A then CodePoint.ofNat (c.val + 0x20) else c

/-- The text with its capitals made small as far as the result is ASCII. Besides the capitals of ASCII only
the Kelvin sign has a small letter of ASCII, so that names in ASCII are found exactly as if all capitals had
been made small. -/
def lowered (t : Text) : Text :=
  (lowerAscii t).map fun c => if c.val = 0x212A then CodePoint.ofChar 'k' else c

end Text

namespace Bytes

/-- The octets of a string whose characters are all below 256. -/
def ofString (s : String) : Bytes := s.toList.map fun c => UInt8.ofNat c.toNat

instance : Coe String Bytes := ⟨ofString⟩

end Bytes

end DocBuild
