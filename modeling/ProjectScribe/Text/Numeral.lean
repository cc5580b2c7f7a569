/-!
# Decimal numerals

The numerals that count as numbers in option values: an optional plus sign and decimal digits,
with a value below two to the sixty-fourth power.
-/
namespace ProjectScribe.Text

/-- The value of a sequence of decimal digits, continuing from `value`. -/
def digitsValue (value : Nat) (digits : List Char) : Nat :=
  digits.foldl (fun v d => v * 10 + (d.toNat - 48)) value

/-- The value of a numeral: an optional plus sign and at least one digit, below `2 ^ 64`. -/
def numeral? (text : List Char) : Option Nat :=
  let digits := match text with
    | '+' :: rest => rest
    | _ => text
  if digits.isEmpty || !digits.all Char.isDigit then none
  else
    let value := digitsValue 0 digits
    if value < UInt64.size then some value else none

example : numeral? "4".toList = some 4 ∧ numeral? "+04".toList = some 4 := by decide
example : numeral? "".toList = none ∧ numeral? "-1".toList = none := by decide
example : numeral? "18446744073709551616".toList = none := by decide

end ProjectScribe.Text
