import DocBuild.Decimal.Shortest
import DocBuild.Fault.Foreign

/-!
# Numbers

Numbers as they are given: whole numbers, truth values, which count as zero and one, and floats. Numbers are
compared by what they amount to, exactly, however they are written; so a whole number of any size can be
compared with a float. A sum with a float is a float.
-/

namespace DocBuild

/-- A number as it is given. -/
inductive Number where
  | int (n : Int)
  | flag (b : Bool)
  | float (x : Float)

/-- What a number amounts to. -/
inductive Amount where
  /-- The whole number `num` halved so many times. -/
  | fraction (num : Int) (halvings : Nat)
  | infinite (negative : Bool)
  /-- What is not a number compares with nothing. -/
  | undefined
deriving DecidableEq

namespace Amount

/-- The amount of the double with the given bits. -/
def ofBits (bits : Nat) : Amount :=
  let negative := Decimal.signBit ≤ bits
  let size := bits % Decimal.signBit
  if size = Decimal.infinityBits then infinite negative
  else if Decimal.infinityBits < size then undefined
  else
    let x := Decimal.ofFiniteBits size
    let num : Int := if 0 ≤ x.q then (x.m * Nat.pow 2 x.q.toNat : Nat) else x.m
    fraction (if negative then -num else num) (-x.q).toNat

/-- Whether one amount is less than another. -/
def less : Amount → Amount → Bool
  | fraction a k, fraction b l => a * (Nat.pow 2 l : Nat) < b * (Nat.pow 2 k : Nat)
  | infinite negative, fraction .. => negative
  | fraction .., infinite negative => !negative
  | infinite a, infinite b => a && !b
  | undefined, _ | _, undefined => false

/-- Whether two amounts are the same. -/
def same (a b : Amount) : Bool := a ≠ undefined && b ≠ undefined && !less a b && !less b a

end Amount

namespace Number

/-- What a number amounts to. -/
def amount : Number → Amount
  | int n => .fraction n 0
  | flag b => .fraction (if b then 1 else 0) 0
  | float x => .ofBits x.toBits.toNat

/-- Whether one number is less than another. -/
def less (a b : Number) : Bool := a.amount.less b.amount

/-- Whether two numbers amount to the same. -/
def same (a b : Number) : Bool := a.amount.same b.amount

/-- Whether one number is at most another. -/
def atMost (a b : Number) : Bool := a.less b || a.same b

/-- The whole number that a number amounts to, if it does to one. -/
def whole? (a : Number) : Option Int :=
  match a.amount with
  | .fraction num halvings =>
    if num % (Nat.pow 2 halvings : Nat) = 0 then some (num / (Nat.pow 2 halvings : Nat)) else none
  | _ => none

/-- The float nearest to a whole number; none if it is beyond all floats. -/
def floatOf? (n : Int) : Option Float :=
  let bits := Decimal.nearestBits n.natAbs 0
  if bits = Decimal.infinityBits then none else some (Decimal.toFloat (n < 0) n.natAbs 0)

/-- The error of a sum of a float and a whole number beyond all floats. -/
def beyondFloats : ForeignError := ⟨.overflow, "int too large to convert to float"⟩

/-- The float that a number is in a sum with a float. -/
def asFloat : Number → Except ForeignError Float
  | float x => .ok x
  | int n =>
    match floatOf? n with
    | some x => .ok x
    | none => .error beyondFloats
  | flag b => .ok (if b then 1.0 else 0.0)

/-- The whole number that a number is in a sum without floats. -/
def asInt? : Number → Option Int
  | int n => some n
  | flag b => some (if b then 1 else 0)
  | float _ => none

/-- The sum of two numbers. -/
def plus (a b : Number) : Except ForeignError Number :=
  match a.asInt?, b.asInt? with
  | some m, some n => .ok (int (m + n))
  | _, _ => do return float ((← a.asFloat) + (← b.asFloat))

/-- The number after a number. -/
def next : Number → Number
  | int n => int (n + 1)
  | flag b => int (if b then 2 else 1)
  | float x => float (x + 1.0)

/-- The number before a number. -/
def previous : Number → Number
  | int n => int (n - 1)
  | flag b => int (if b then 0 else -1)
  | float x => float (x - 1.0)

theorem less_int (a b : Int) : (int a).less (int b) = decide (a < b) := by
  simp [less, amount, Amount.less]

theorem same_int (a b : Int) : (int a).same (int b) = decide (a = b) := by
  rw [Bool.eq_iff_iff]
  simp [same, amount, Amount.same, Amount.less]
  omega

theorem atMost_int (a b : Int) : (int a).atMost (int b) = decide (a ≤ b) := by
  rw [Bool.eq_iff_iff]
  simp [atMost, less_int, same_int]
  omega

theorem plus_int (a b : Int) : (int a).plus (int b) = .ok (int (a + b)) := rfl

/-- The numbers without those that amount to the same as one before them. -/
def distinct (numbers : List Number) : List Number :=
  (numbers.foldl (fun found a => if found.any a.same then found else a :: found) []).reverse

end Number

end DocBuild
