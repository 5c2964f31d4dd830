import FrontPage.Number.Extended
import FrontPage.Number.Decimal
import FrontPage.Value.Numeral

/-!
# Numbers and texts in columns

A column that converts what is put into it goes through numbers of 64 significant bits, and the last digit of the
result is that of their rounding. `Numeral.columnValue` is the number that a numeral becomes: its first nineteen digits
or so times a power of ten. `Binary64.columnText` writes a number with fifteen significant digits.
-/

namespace FrontPage

namespace Numeral

/-- Digits are taken up as long as what was taken up is smaller. -/
def digitBound : Nat := 922337203685477579

/-- The significant digits of a whole part, and how many digits behind them were left out. -/
def takeWhole (digits : List Char) : Nat × Nat :=
  digits.foldl (fun (taken, left) c =>
    if taken < digitBound then (10 * taken + Text.digitsValue [c], left) else (taken, left + 1)) (0, 0)

/-- The significant digits with those of a fraction added, and how many were added. -/
def takeFraction (taken : Nat) (digits : List Char) : Nat × Nat :=
  digits.foldl (fun (taken, places) c =>
    if taken < digitBound then (10 * taken + Text.digitsValue [c], places + 1) else (taken, places)) (taken, 0)

/-- The value of the digits of an exponent, which counts no further than to five places. -/
def exponentSize (digits : List Char) : Nat :=
  digits.foldl (fun n c => if n < 10000 then 10 * n + Text.digitsValue [c] else 10000) 0

/-- The significant digits of a numeral and the power of ten that they are times. -/
def significance (n : Numeral) : Nat × Int :=
  let (taken, left) := takeWhole n.whole
  let (taken, places) := takeFraction taken (n.fraction.getD [])
  let power : Int :=
    match n.exponent with
    | none => 0
    | some (negative, digits) => if negative then -(exponentSize digits : Int) else exponentSize digits
  (taken, power + left - places)

/-- Digits with as many of the powers of ten multiplied in as there is room for, and the powers left. -/
def multiplyIn (digits : Nat) : Nat → Nat × Nat
  | 0 => (digits, 0)
  | power + 1 => if 922337203685477580 ≤ digits then (digits, power + 1) else multiplyIn (10 * digits) power

/-- Digits with as many of the powers of ten divided out as come out even, and the powers left. -/
def divideOut (digits : Nat) : Nat → Nat × Nat
  | 0 => (digits, 0)
  | power + 1 => if digits % 10 = 0 then divideOut (digits / 10) power else (digits, power + 1)

/-- The largest power of ten that is handled in one step. -/
def largePower : Binary64 := Binary64.ofDecimal false 1 308

/-- Digits times a power of ten above zero. -/
def timesPower (negative : Bool) (digits power : Nat) : Binary64 :=
  if 341 < power then .infinite negative
  else if 307 < power then
    match ((Extended.ofNat digits).mul (.powerOfTen (power - 308))).toBinary64 negative, largePower with
    | .finite _ units, .finite _ large =>
      Binary64.ofQuotient negative (units * large) (unitsPerOne * unitsPerOne)
    | _, _ => .infinite negative
  else ((Extended.ofNat digits).mul (.powerOfTen power)).toBinary64 negative

/-- Digits divided by a power of ten above zero. -/
def overPower (negative : Bool) (digits power : Nat) : Binary64 :=
  if 341 < power then .finite negative 0
  else if 307 < power then
    match ((Extended.ofNat digits).div (.powerOfTen (power - 308))).toBinary64 negative, largePower with
    | .finite _ units, .finite _ large => Binary64.ofQuotient negative units large
    | _, _ => .finite negative 0
  else ((Extended.ofNat digits).div (.powerOfTen power)).toBinary64 negative

/-- The number that a numeral becomes in a column. -/
def columnValue (n : Numeral) : Binary64 :=
  let (digits, power) := n.significance
  if digits = 0 then .finite n.negative 0
  else if 0 ≤ power then
    match multiplyIn digits power.toNat with
    | (digits, 0) => Binary64.ofQuotient n.negative digits 1
    | (digits, power) => timesPower n.negative digits power
  else
    match divideOut digits (-power).toNat with
    | (digits, 0) => Binary64.ofQuotient n.negative digits 1
    | (digits, power) => overPower n.negative digits power

end Numeral

namespace Extended

/-- A scale with a base multiplied in as long as the number is not below the product, and the power of ten of the scale.
The fuel bounds how often that can be. -/
def climb (number base : Extended) (step : Int) : Nat → Extended × Int → Extended × Int
  | 0, scale => scale
  | fuel + 1, (scale, power) =>
    if (base.mul scale).lessEqual number then climb number base step fuel (scale.mul base, power + step)
    else (scale, power)

/-- The number with a base multiplied in as long as it is below a bound, and its power of ten. The fuel bounds how often
that can be. -/
def lift (bound base : Extended) (step : Int) : Nat → Extended × Int → Extended × Int
  | 0, number => number
  | fuel + 1, (number, power) =>
    if bound.lessEqual number then (number, power) else lift bound base step fuel (number.mul base, power - step)

/-- The number between one and ten that a number is a power of ten times, and that power. -/
def normalize (number : Extended) : Extended × Int :=
  let scale := climb number (.ofDecimal 1 100) 100 8 (.ofNat 1, 0)
  let scale := climb number (.ofDecimal 1 10) 10 16 scale
  let (scale, power) := climb number (.ofNat 10) 1 16 scale
  lift (.ofNat 1) (.ofNat 10) 1 16 (lift (.ofDecimal 1 (-8)) (.ofDecimal 1 8) 8 64 (number.div scale, power))

/-- The first digits of a number between zero and ten, in front of digits that are given. -/
def takeDigits (number : Extended) (taken : Nat) : Nat → Nat
  | 0 => taken
  | count + 1 =>
    let digit := number.floor
    takeDigits ((number.sub (.ofNat digit)).mul (.ofNat 10)) (10 * taken + digit) count

/-- Half of a fifteenth digit. -/
def halfDigit : Extended := (Extended.ofDecimal 5 (-5)).mul (.ofDecimal 1 (-10))

/-- Fifteen digits of a number, half a digit added before the rest is cut off. -/
def fifteenDigits (number : Extended) : Decimal :=
  let (number, power) := number.normalize
  let rounded := number.add halfDigit
  let (rounded, power) :=
    if (Extended.ofNat 10).lessEqual rounded then (rounded.mul (.ofDecimal 1 (-1)), power + 1) else (rounded, power)
  ⟨takeDigits rounded 0 15, power - 14⟩

end Extended

/-- Numbers in text columns have up to fifteen digits and always a point. -/
def columnFormat : DecimalFormat := ⟨-4, 15, true, "Inf", ""⟩

/-- A number as a text column has it; zero has no sign. -/
def Binary64.columnText : Binary64 → String
  | .finite negative units =>
    columnFormat.write (fun n => (Extended.ofUnits n).fifteenDigits) (.finite (negative && units != 0) units)
  | x => columnFormat.write (fun n => (Extended.ofUnits n).fifteenDigits) x

end FrontPage
