import DocBuild.Text.Basic

/-!
# Long numerals

Numerals of more than `maxDigits` digits, leading zeros included, are not converted to numbers.
-/

namespace DocBuild

/-- The longest numeral that is converted to a number. -/
def maxDigits : Nat := 4300

/-- A numeral that is too long to be converted, by the number of its digits. -/
structure LongNumeral where
  digits : Nat
deriving DecidableEq

/-- The words for a numeral that is too long. -/
def LongNumeral.message (n : LongNumeral) : Text :=
  "Exceeds the limit (" ++ Text.ofNat maxDigits ++
    " digits) for integer string conversion: value has " ++ Text.ofNat n.digits ++
    " digits; use sys.set_int_max_str_digits() to increase the limit"

end DocBuild
