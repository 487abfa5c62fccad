import DocBuild.Decimal.Nearest
import DocBuild.Text.Basic

/-!
# The shortest decimal of a double

A double is written with the fewest digits that read back as the same double; of the decimals with that
many digits, the one nearest to the double is taken. For each number of digits only the two neighbours of
the double on that decimal grid can be meant.
-/

namespace DocBuild

namespace Decimal

/-- The number of decimal digits of a positive number. -/
def width (n : Nat) : Nat := (Nat.toDigits 10 n).length

/-- The exponent of the leading decimal digit of a positive fraction. -/
def leadingExponent (num den : Nat) : Int :=
  if den ≤ num then (width (num / den) : Int) - 1 else -(width ((den - 1) / num) : Int)

/-- The fraction `num / den` divided by `10 ^ unit`. -/
def inUnits (num den : Nat) (unit : Int) : Nat × Nat :=
  if 0 ≤ unit then (num, den * Nat.pow 10 unit.toNat) else (num * Nat.pow 10 (-unit).toNat, den)

/-- The neighbour of `num / den` on the grid of `10 ^ unit` that reads back as `bits`. If both do it is the
nearer one, and the even one if both are equally near. -/
def onGrid? (bits num den : Nat) (unit : Int) : Option Nat :=
  let (num, den) := inUnits num den unit
  let below := num / den
  let twice := 2 * (num % den)
  let nearerAbove := den < twice || (den = twice && below % 2 = 1)
  let first := if nearerAbove then below + 1 else below
  let second := if nearerAbove then below else below + 1
  if nearestBits first unit = bits then some first
  else if nearestBits second unit = bits then some second
  else none

/-- Searches the grids from `digits` significant digits on, for `tries` grids. -/
def searchGrids (bits num den : Nat) (leading : Int) (digits : Nat) : Nat → Nat × Int
  | 0 => (0, 0)
  | tries + 1 =>
    let unit := leading + 1 - digits
    match onGrid? bits num den unit with
    | some d => (d, unit)
    | none => searchGrids bits num den leading (digits + 1) tries

/-- The digits and the exponent of the shortest decimal of the positive double with the given bits. -/
def shortest (bits : Nat) : Nat × Int :=
  let x := ofFiniteBits bits
  let num := if 0 ≤ x.q then x.m * Nat.pow 2 x.q.toNat else x.m
  let den := if 0 ≤ x.q then 1 else Nat.pow 2 (-x.q).toNat
  searchGrids bits num den (leadingExponent num den) 1 17

/-- How a double is written: the names of what is no number, and the exponents of the leading digit that
are written without an exponent part. -/
structure FloatStyle where
  notANumber : Text
  infinity : Text
  leastPositional : Int := -4
  mostPositional : Int := 15

/-- The digits with a point after the first, or none if there is only one. -/
def withPoint : Text → Text
  | [] => []
  | [d] => [d]
  | d :: rest => d :: ("." ++ rest)

/-- Writes digits whose first one has the given exponent. -/
def layout (style : FloatStyle) (digits : Text) (leading : Int) : Text :=
  if style.leastPositional ≤ leading ∧ leading ≤ style.mostPositional then
    if leading < 0 then "0." ++ List.replicate (-leading - 1).toNat (CodePoint.ofChar '0') ++ digits
    else
      let whole := leading.toNat + 1
      if digits.length ≤ whole then
        digits ++ List.replicate (whole - digits.length) (CodePoint.ofChar '0') ++ ".0"
      else digits.take whole ++ "." ++ digits.drop whole
  else
    let size := Text.ofNat leading.natAbs
    withPoint digits ++ "e" ++ (if leading < 0 then "-" else "+") ++
      (if size.length < 2 then "0" ++ size else size)

/-- The text of the non-negative double with the given bits. -/
def textOfBits (style : FloatStyle) (bits : Nat) : Text :=
  if bits = infinityBits then style.infinity
  else if infinityBits < bits then style.notANumber
  else if bits = 0 then layout style "0" 0
  else
    let (d, unit) := shortest bits
    let digits := Text.ofNat d
    layout style (Text.dropTrailing (CodePoint.ofChar '0') digits) (unit + digits.length - 1)

/-- The bit that is set in negative doubles. -/
def signBit : Nat := 0x8000000000000000

/-- The text of a double. -/
def text (style : FloatStyle) (x : Float) : Text :=
  let bits := x.toBits.toNat
  if bits < signBit then textOfBits style bits
  else if infinityBits < bits - signBit then style.notANumber
  else "-" ++ textOfBits style (bits - signBit)

/-- The double nearest to `digits * 10 ^ exponent`, negated on demand. -/
def toFloat (negative : Bool) (digits : Nat) (exponent : Int) : Float :=
  let bits := nearestBits digits exponent
  Float.ofBits (UInt64.ofNat (if negative then bits + signBit else bits))

example : textOfBits ⟨"nan", "inf", -4, 15⟩ 0x3FB999999999999A = "0.1" := by decide +kernel

example : textOfBits ⟨"nan", "inf", -4, 15⟩ 1 = "5e-324" := by decide +kernel

end Decimal

end DocBuild
