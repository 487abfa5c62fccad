import DocBuild.Text.Piece

/-!
# Escapes in octets

Octets are the first characters of Unicode, except that a backslash starts an escape: for a character by its
number, and in the full form also for one by its name in C. Other backslashes stand for themselves.
-/

namespace DocBuild.Escaped

/-- Reads `wanted` hexadecimal digits after `taken` octets with the value `value` so far. -/
def number (value taken : Nat) : Nat → Bytes → Piece
  | 0, _ => if value < 0x110000 then .point (CodePoint.ofNat value) taken else .flaw .outOfRange taken
  | _ + 1, [] => .flaw .unexpectedEnd taken
  | wanted + 1, b :: rest =>
    match (CodePoint.ofByte b).hexValue? with
    | some digit => number (16 * value + digit) (taken + 1) wanted rest
    | none => .flaw .invalidContinuation taken

/-- The first piece where a backslash escapes only numbers of four and of eight digits. -/
def readNumbers : PieceReader := fun first rest =>
  if first ≠ 0x5C then .point (CodePoint.ofByte first) 1
  else
    match rest with
    | [] => .point (CodePoint.ofByte first) 1
    | 0x75 :: digits => number 0 2 4 digits
    | 0x55 :: digits => number 0 2 8 digits
    | next :: _ => .text [CodePoint.ofByte first, CodePoint.ofByte next] 2

/-- The text of an escape of one letter or sign. An escaped line end is left out. -/
def short? (sign : Char) : Option Text :=
  match sign with
  | '\n' => some []
  | '\\' | '\'' | '"' => some [CodePoint.ofChar sign]
  | 'a' => some [CodePoint.ofNat 7]
  | 'b' => some [CodePoint.ofNat 8]
  | 't' => some [CodePoint.ofNat 9]
  | 'n' => some [CodePoint.ofNat 10]
  | 'v' => some [CodePoint.ofNat 11]
  | 'f' => some [CodePoint.ofNat 12]
  | 'r' => some [CodePoint.ofNat 13]
  | _ => none

/-- An octal digit. -/
def isOctal (b : UInt8) : Bool := 0x30 ≤ b.toNat && b.toNat ≤ 0x37

/-- A number of up to three octal digits. -/
def octal (rest : Bytes) : Piece :=
  let digits := (rest.take 3).takeWhile isOctal
  .point (CodePoint.ofNat (digits.foldl (fun n b => 8 * n + (b.toNat - 0x30)) 0)) (1 + digits.length)

/-- The full name of a character, in braces. No name is known. -/
def named : Bytes → Piece
  | 0x7B :: rest =>
    let name := rest.takeWhile (· ≠ 0x7D)
    if name.length = rest.length then .flaw .unexpectedEnd (3 + name.length)
    else if name.isEmpty then .flaw .invalidContinuation 3
    else .flaw .invalidContinuation (4 + name.length)
  | _ => .flaw .invalidContinuation 2

/-- The first piece where a backslash starts any of the escapes. -/
def read : PieceReader := fun first rest =>
  if first ≠ 0x5C then .point (CodePoint.ofByte first) 1
  else
    match rest with
    | [] => .flaw .unexpectedEnd 1
    | 0x78 :: digits => number 0 2 2 digits
    | 0x75 :: digits => number 0 2 4 digits
    | 0x55 :: digits => number 0 2 8 digits
    | 0x4E :: more => named more
    | next :: _ =>
      if isOctal next then octal rest
      else
        match short? (Char.ofNat next.toNat) with
        | some t => .text t 2
        | none => .text [CodePoint.ofByte first, CodePoint.ofByte next] 2

end DocBuild.Escaped
