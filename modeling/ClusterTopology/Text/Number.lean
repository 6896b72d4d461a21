/-!
# Decimal numbers

`decimal` writes a number without leading zeros. `number?` reads it back, and also reads leading
zeros and one plus sign in front.
-/

namespace ClusterTopology.Text

/-- The decimal digits of `n`, most significant first. -/
def decimal (n : Nat) : List Char := Nat.toDigits 10 n

/-- The text after an optional plus sign. -/
def dropPlus : List Char → List Char
  | '+' :: cs => cs
  | cs => cs

/-- Reads an optional plus sign and one or more ASCII digits, for a value that fits into 64 bits. -/
def number? (cs : List Char) : Option Nat :=
  let digits := dropPlus cs
  if digits.isEmpty || !digits.all Char.isDigit then none
  else
    let value := Nat.ofDigitChars 10 digits 0
    if value < UInt64.size then some value else none

end ClusterTopology.Text
