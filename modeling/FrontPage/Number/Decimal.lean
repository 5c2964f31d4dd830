import FrontPage.Number.Binary64

/-!
# Decimal text of binary numbers

`Decimal.shortest` finds the fewest significant digits that read back as a given number, and of those the nearest to
it. `DecimalFormat` says how digits are laid out, and `DecimalFormat.plain` is the layout that this library's values are
written in: positional from 10⁻⁴ up to 10¹⁶, with a point in every case, and otherwise an exponent of at least two
digits.
-/

namespace FrontPage

/-- The decimal number `digits · 10^exponent`. -/
structure Decimal where
  digits : Nat
  exponent : Int
  deriving DecidableEq, Repr

namespace Decimal

/-- The decimal digits of a number. -/
def digitChars (n : Nat) : List Char := Nat.toDigits 10 n

/-- The power of ten of the first significant digit of a count of units that is not zero. -/
def leadingPower (units : Nat) : Int :=
  if unitsPerOne ≤ units then ((digitChars (units / unitsPerOne)).length : Int) - 1
  else -((digitChars ((unitsPerOne - 1) / units)).length : Int)

/-- The integer numerator and denominator of a count of units on the grid of multiples of `10^exponent`. -/
def gridQuotient (units : Nat) (exponent : Int) : Nat × Nat :=
  (units * Nat.pow 10 (-exponent).toNat, unitsPerOne * Nat.pow 10 exponent.toNat)

/-- Four times the distances from a count of units to the lower and the upper end of what rounds to it. -/
def roundingMargins (units : Nat) : Nat × Nat :=
  let step := Binary64.grain units
  (if 1 < step && units == Nat.pow 2 52 * step then step else 2 * step, 2 * step)

/-- The decimal number reads back as a count of units: it lies between the ends of what rounds to the count, the ends
themselves included when the count is even on its grain. -/
def readsBack (units : Nat) (d : Decimal) : Bool :=
  let (below, above) := roundingMargins units
  let scale := Nat.pow 10 (-d.exponent).toNat
  let value := 4 * d.digits * unitsPerOne * Nat.pow 10 d.exponent.toNat
  let low := (4 * units - below) * scale
  let high := (4 * units + above) * scale
  if units / Binary64.grain units % 2 == 0 then low ≤ value && value ≤ high else low < value && value < high

/-- The number with `count` significant digits that reads back as a count of units, the nearer of two. -/
def withDigits? (units count : Nat) : Option Decimal :=
  let exponent := leadingPower units - count + 1
  let (numerator, denominator) := gridQuotient units exponent
  let below : Decimal := ⟨numerator / denominator, exponent⟩
  let above : Decimal := ⟨numerator / denominator + 1, exponent⟩
  match readsBack units below, readsBack units above with
  | true, true => some ⟨Binary64.roundQuotient numerator denominator, exponent⟩
  | true, false => some below
  | false, true => some above
  | false, false => none

/-- The fewest digits that read back as a count of units that is not zero. -/
def shortest (units : Nat) : Decimal :=
  ((List.range 17).findSome? fun n => withDigits? units (n + 1)).getD ⟨0, 0⟩

/-- The significant digits without the zeros at their end, and the power of ten of the first of them. -/
def significant (d : Decimal) : List Char × Int :=
  let digits := digitChars d.digits
  ((digits.reverse.dropWhile (· == '0')).reverse, digits.length - 1 + d.exponent)

end Decimal

/-- How the digits of a number are laid out. -/
structure DecimalFormat where
  /-- The powers of ten of the first digit that are written positionally, from this one on, -/
  positionalFrom : Int
  /-- and below this one. -/
  positionalBelow : Int
  /-- An exponent follows a point even when there is one digit only. -/
  pointBeforeExponent : Bool
  infinity : String
  notANumber : String

namespace DecimalFormat

/-- The layout of the numbers of this library. -/
def plain : DecimalFormat := ⟨-4, 16, false, "inf", "nan"⟩

/-- A row of zeros. -/
def zeros (n : Int) : List Char := List.replicate n.toNat '0'

/-- Significant digits with a point, the first digit standing at a power of ten. -/
def positional (digits : List Char) (power : Int) : List Char :=
  if power < 0 then ['0', '.'] ++ zeros (-power - 1) ++ digits
  else
    let whole := digits.take (power.toNat + 1)
    let fraction := digits.drop (power.toNat + 1)
    whole ++ zeros (power + 1 - whole.length) ++ ['.'] ++ (if fraction.isEmpty then ['0'] else fraction)

/-- An exponent with its sign and at least two digits. -/
def exponentText (power : Int) : List Char :=
  let digits := Decimal.digitChars power.natAbs
  ['e', if power < 0 then '-' else '+'] ++ zeros (2 - digits.length) ++ digits

/-- Significant digits in the layout of the format. -/
def layOut (format : DecimalFormat) (d : Decimal) : List Char :=
  let (digits, power) := d.significant
  if format.positionalFrom ≤ power && power < format.positionalBelow then positional digits power
  else
    let mantissa :=
      match digits with
      | [] => []
      | [digit] => if format.pointBeforeExponent then [digit, '.', '0'] else [digit]
      | digit :: others => digit :: '.' :: others
    mantissa ++ exponentText power

/-- The text of a number whose digits are chosen by `choose`. -/
def write (format : DecimalFormat) (choose : Nat → Decimal) : Binary64 → String
  | .nan => format.notANumber
  | .infinite negative => if negative then "-" ++ format.infinity else format.infinity
  | .finite negative units =>
    let digits := if units = 0 then ['0', '.', '0'] else format.layOut (choose units)
    String.ofList (if negative then '-' :: digits else digits)

end DecimalFormat

/-- The shortest text that reads back as the number. -/
def Binary64.text : Binary64 → String := DecimalFormat.plain.write Decimal.shortest

end FrontPage
