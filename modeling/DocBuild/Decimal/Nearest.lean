/-!
# The binary fraction nearest to a decimal

A double is a sign and a number `m * 2 ^ q` with `m < 2 ^ 53` and `-1074 ≤ q`. A decimal `d * 10 ^ e` is
read as the nearest such number; of two equally near ones the one with even `m` is taken. All arithmetic
is exact.
-/

namespace DocBuild

/-- A non-negative binary fraction `m * 2 ^ q`. -/
structure Dyadic where
  m : Nat
  q : Int
deriving DecidableEq

namespace Decimal

/-- The least number with 53 binary digits. -/
def leadingBit : Nat := 0x10000000000000

/-- The bits of positive infinity. -/
def infinityBits : Nat := 0x7FF0000000000000

/-- A fraction rounded to a whole number, half to even. -/
def roundHalfEven (num den : Nat) : Nat :=
  let floor := num / den
  let twice := 2 * (num % den)
  if twice < den then floor
  else if den < twice then floor + 1
  else floor + floor % 2

/-- The fraction `num / den` scaled by `2 ^ (-q)`, rounded half to even. -/
def scaled (num den : Nat) (q : Int) : Nat :=
  if 0 ≤ q then roundHalfEven num (den * Nat.pow 2 q.toNat)
  else roundHalfEven (num * Nat.pow 2 (-q).toNat) den

/-- The exponent of the unit in which a positive fraction is rounded to 53 binary digits; it is off by
at most one, downwards. -/
def unitExponent (num den : Nat) : Int :=
  max (-1074) ((Nat.log2 num : Int) - Nat.log2 den - 53)

/-- The 53-digit binary fraction nearest to a positive fraction. -/
def nearest (num den : Nat) : Dyadic :=
  let q := unitExponent num den
  let m := scaled num den q
  if m < 2 * leadingBit then ⟨m, q⟩
  else
    let m := scaled num den (q + 1)
    if m < 2 * leadingBit then ⟨m, q + 1⟩ else ⟨scaled num den (q + 2), q + 2⟩

/-- The bits of the double `m * 2 ^ q`, where `m < 2 ^ 53`; too large a number gives infinity. -/
def bitsOfDyadic (x : Dyadic) : Nat :=
  if x.m < leadingBit then x.m
  else
    let exponent := (x.q + 1075).toNat
    if 2047 ≤ exponent then infinityBits else exponent * leadingBit + (x.m - leadingBit)

/-- The number that the finite non-negative double with the given bits is. -/
def ofFiniteBits (bits : Nat) : Dyadic :=
  let exponent : Nat := bits / leadingBit
  let fraction : Nat := bits % leadingBit
  if exponent = 0 then ⟨fraction, -1074⟩ else ⟨leadingBit + fraction, (exponent : Int) - 1075⟩

/-- The bits of the double nearest to `digits * 10 ^ exponent`. A number far beyond the range of doubles
is recognised by its magnitude, before any power is formed. -/
def nearestBits (digits : Nat) (exponent : Int) : Nat :=
  let magnitude := (Nat.log2 digits : Int) + 3 * exponent
  if digits = 0 then 0
  else if 0 ≤ exponent then
    if 1100 < magnitude then infinityBits
    else bitsOfDyadic (nearest (digits * Nat.pow 10 exponent.toNat) 1)
  else if magnitude < -1100 then 0
  else bitsOfDyadic (nearest digits (Nat.pow 10 (-exponent).toNat))

end Decimal

end DocBuild
