import FrontPage.Number.Binary64

/-!
# Numbers with 64 significant bits

An `Extended` number is a whole number times a power of two, kept to 64 significant bits: an operation is exact
arithmetic followed by one rounding (`Extended.round`), a tie to the even one. Conversions between decimal text and
binary64 numbers that are done step by step keep their intermediate results in this format.
-/

namespace FrontPage

/-- The number `mantissa · 2^exponent`. -/
structure Extended where
  mantissa : Nat
  exponent : Int
  deriving DecidableEq, Repr

namespace Extended

/-- Numerator and denominator of a quotient times a power of two. -/
def scale (numerator denominator : Nat) (power : Int) : Nat × Nat :=
  (numerator * Nat.pow 2 power.toNat, denominator * Nat.pow 2 (-power).toNat)

/-- A quotient times a power of two, rounded to 64 significant bits. -/
def round (numerator denominator : Nat) (exponent : Int) : Extended :=
  let power : Int := 63 + denominator.log2 - numerator.log2
  let (n, d) := scale numerator denominator power
  if numerator = 0 then ⟨0, 0⟩
  else if n / d < 9223372036854775808 then
    let (n, d) := scale numerator denominator (power + 1)
    ⟨Binary64.roundQuotient n d, exponent - (power + 1)⟩
  else ⟨Binary64.roundQuotient n d, exponent - power⟩

/-- A whole number. -/
def ofNat (n : Nat) : Extended := round n 1 0

/-- A count of units of binary64. -/
def ofUnits (units : Nat) : Extended := round units 1 (-1074)

/-- The binary64 number nearest to a decimal number, which is not too large. -/
def ofDecimal (digits : Nat) (exponent : Int) : Extended :=
  match Binary64.ofDecimal false digits exponent with
  | .finite _ units => ofUnits units
  | _ => ⟨0, 0⟩

/-- The mantissas of two numbers at the smaller of their exponents, and that exponent. -/
def align (a b : Extended) : Nat × Nat × Int :=
  let exponent := min a.exponent b.exponent
  (a.mantissa * Nat.pow 2 (a.exponent - exponent).toNat, b.mantissa * Nat.pow 2 (b.exponent - exponent).toNat,
    exponent)

/-- The sum. -/
def add (a b : Extended) : Extended :=
  let (m, n, exponent) := a.align b
  round (m + n) 1 exponent

/-- The difference, zero if it would be negative. -/
def sub (a b : Extended) : Extended :=
  let (m, n, exponent) := a.align b
  round (m - n) 1 exponent

/-- The product. -/
def mul (a b : Extended) : Extended := round (a.mantissa * b.mantissa) 1 (a.exponent + b.exponent)

/-- The quotient. -/
def div (a b : Extended) : Extended := round a.mantissa b.mantissa (a.exponent - b.exponent)

/-- The first number is smaller or equal. -/
def lessEqual (a b : Extended) : Bool :=
  let (m, n, _) := a.align b
  m ≤ n

/-- The whole part. -/
def floor (a : Extended) : Nat :=
  let (n, d) := scale a.mantissa 1 a.exponent
  n / d

/-- The nearest binary64 number with a sign. -/
def toBinary64 (negative : Bool) (a : Extended) : Binary64 :=
  let (n, d) := scale a.mantissa 1 a.exponent
  Binary64.ofQuotient negative n d

/-- The product of powers of a base by the binary digits of an exponent, times a number. -/
def powerFrom (base product : Extended) (exponent : Nat) : Extended :=
  if h : exponent = 0 then product
  else
    have : exponent / 2 < exponent := Nat.div_lt_self (Nat.pos_of_ne_zero h) (by decide)
    powerFrom (base.mul base) (if exponent % 2 = 1 then product.mul base else product) (exponent / 2)

/-- A power of ten, rounded after every multiplication. -/
def powerOfTen (exponent : Nat) : Extended := powerFrom (ofNat 10) (ofNat 1) exponent

end Extended

end FrontPage
