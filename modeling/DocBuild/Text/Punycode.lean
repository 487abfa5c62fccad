import DocBuild.Text.Piece

/-!
# Punycode

The ASCII characters of a text stand before the last hyphen. Behind it, each number says how far on the next
of the other characters is: in a walk through all places of the text for one code point after the other. The
digits of a number have weights that depend on a bias, which adapts to the numbers before.
-/

namespace DocBuild.Punycode

/-- The state of the walk: the text so far, the code point and the place that come next, the bias, and the
digits of the next number so far. -/
structure State where
  text : Text
  point : Nat := 0x80
  place : Nat := 0
  bias : Nat := 72
  isFirst : Bool := true
  delta : Nat := 0
  weight : Nat := 1
  digits : Nat := 0
  /-- Whether every code point has been one of Unicode. -/
  inRange : Bool := true

/-- The value of a digit, in letters and then in figures. -/
def digit? (b : UInt8) : Option Nat :=
  let n := b.toNat
  if 0x41 ≤ n && n ≤ 0x5A then some (n - 0x41)
  else if 0x61 ≤ n && n ≤ 0x7A then some (n - 0x61)
  else if 0x30 ≤ n && n ≤ 0x39 then some (n - 0x30 + 26)
  else none

/-- The value from which on a digit says that another one follows. -/
def State.threshold (s : State) : Nat := min 26 (max 1 (36 * (s.digits + 1) - s.bias))

/-- The bias of a number that counts in steps of thirty-six while it is large. -/
def adapted (steps delta : Nat) : Nat :=
  if 455 < delta then adapted (steps + 36) (delta / 35) else steps + 36 * delta / (delta + 38)
termination_by delta

/-- Inserts the character that a number leads to. A question mark stands for what is no code point. -/
def State.insert (s : State) (delta : Nat) : State :=
  let size := s.text.length + 1
  let point := s.point + (s.place + delta) / size
  let place := (s.place + delta) % size
  let inRange := point < 0x110000
  let point := if inRange then point else 0x3F
  let scaled := if s.isFirst then delta / 700 else delta / 2
  { text := s.text.take place ++ CodePoint.ofNat point :: s.text.drop place
    point, place := place + 1
    bias := adapted 0 (scaled + scaled / size)
    isFirst := false
    inRange := s.inRange && inRange }

/-- The text after the numbers that digits spell, and whether all of them are well-formed. What follows an
ill-formed number is left out. -/
def walk (s : State) : Bytes → Text × Bool
  | [] => (s.text, s.inRange && s.digits = 0)
  | b :: rest =>
    match digit? b with
    | none => (s.text, false)
    | some digit =>
      let delta := s.delta + digit * s.weight
      if digit < s.threshold then walk (s.insert delta) rest
      else walk { s with delta, weight := s.weight * (36 - s.threshold), digits := s.digits + 1 } rest

/-- What stands before the last hyphen and what stands behind it. -/
def split (bytes : Bytes) : Bytes × Bytes :=
  let behind := (bytes.reverse.takeWhile (· ≠ 0x2D)).reverse
  ((bytes.take (bytes.length - behind.length)).dropLast, behind)

/-- Reads an octet as ASCII. -/
def readAscii : PieceReader := fun b _ =>
  if b.toNat < 0x80 then .point (CodePoint.ofByte b) 1 else .flaw .invalidStart 1

/-- The text of a byte string, and whether it is well-formed. -/
def decode (bytes : Bytes) : Text × Bool :=
  let (base, extension) := split bytes
  let (text, isValid) := walk { text := readAscii.lenient base } extension
  (text, isValid && base.all (·.toNat < 0x80))

example : decode "bcher-kva" = (Text.ofString "bücher", true) := by decide +kernel

end DocBuild.Punycode
