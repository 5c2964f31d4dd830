/-!
# Binary floating-point numbers

A finite number of the binary64 format is a whole number of units of 2⁻¹⁰⁷⁴, so `Binary64` holds a sign and a count of
units, and arithmetic is exact arithmetic of counts followed by one rounding: `roundUnits` takes a quotient to the
nearest count that the format has (`grain` apart), a tie to the even one. Counts below 2⁵³ are all in the format
(`roundUnits_one_of_lt`).
-/

namespace FrontPage

/-- The units that make up one. -/
def unitsPerOne : Nat := Nat.pow 2 1074

/-- There is at least one unit in one. -/
theorem unitsPerOne_pos : 0 < unitsPerOne := by decide +kernel

/-- A number of the binary64 format; a finite one is a count of units of 2⁻¹⁰⁷⁴ with a sign. -/
inductive Binary64 where
  | finite (negative : Bool) (units : Nat)
  | infinite (negative : Bool)
  | nan
  deriving DecidableEq, Repr, Inhabited

namespace Binary64

/-- The first count of units that is too large for the format. -/
def overflowUnits : Nat := Nat.pow 2 2098

/-- The quotient rounded to the nearest whole number, a tie to the even one. -/
def roundQuotient (numerator denominator : Nat) : Nat :=
  let quotient := numerator / denominator
  let twice := 2 * (numerator % denominator)
  if denominator < twice || (twice == denominator && quotient % 2 == 1) then quotient + 1 else quotient

/-- The distance of neighbouring counts of the format near a count. -/
def grain (units : Nat) : Nat := Nat.pow 2 (units.log2 - 52)

/-- The quotient rounded to the nearest count of the format, regardless of overflow. -/
def roundUnits (numerator denominator : Nat) : Nat :=
  let step := grain (numerator / denominator)
  roundQuotient numerator (denominator * step) * step

/-- A whole number is its own rounding. -/
theorem roundQuotient_one (n : Nat) : roundQuotient n 1 = n := by
  simp [roundQuotient, Nat.mod_one]

/-- Below 2⁵³ neighbouring counts are one unit apart. -/
theorem grain_of_lt {units : Nat} (h : units < Nat.pow 2 53) : grain units = 1 := by
  have : units.log2 ≤ 52 := by
    by_cases h0 : units = 0
    · simp [h0]
    · exact Nat.le_of_lt_succ ((Nat.log2_lt h0).mpr h)
  simp [grain, Nat.sub_eq_zero_of_le this]

/-- A count below 2⁵³ is in the format. -/
theorem roundUnits_one_of_lt {units : Nat} (h : units < Nat.pow 2 53) : roundUnits units 1 = units := by
  simp [roundUnits, grain_of_lt h, roundQuotient_one]

/-- A count of units as a number, infinite when it is too large. -/
def ofUnits (negative : Bool) (units : Nat) : Binary64 :=
  if units < overflowUnits then .finite negative units else .infinite negative

/-- The number nearest to a quotient. -/
def ofQuotient (negative : Bool) (numerator denominator : Nat) : Binary64 :=
  ofUnits negative (roundUnits (numerator * unitsPerOne) denominator)

/-- The number nearest to `digits · 10^exponent`. A number of more than 400 places before the point is infinite, and
one with more than 400 zeros behind it is zero, without being written out. -/
def ofDecimal (negative : Bool) (digits : Nat) (exponent : Int) : Binary64 :=
  let places := (digits.log2 : Int) * 30103 / 100000 + exponent
  if digits = 0 || places < -400 then .finite negative 0
  else if 400 < places then .infinite negative
  else ofQuotient negative (digits * Nat.pow 10 exponent.toNat) (Nat.pow 10 (-exponent).toNat)

/-- The number nearest to an integer, if that is finite. -/
def ofInt? (n : Int) : Option Binary64 :=
  match ofQuotient (n < 0) n.natAbs 1 with
  | .finite negative units => some (.finite negative units)
  | _ => none

/-- The number of the other sign. -/
def neg : Binary64 → Binary64
  | .finite negative units => .finite (!negative) units
  | .infinite negative => .infinite (!negative)
  | .nan => .nan

/-- The rounded sum; a sum of nothing is negative only if both parts are. -/
def add : Binary64 → Binary64 → Binary64
  | .finite n₁ u₁, .finite n₂ u₂ =>
    let sum : Int := (if n₁ then -(u₁ : Int) else u₁) + (if n₂ then -(u₂ : Int) else u₂)
    if sum = 0 then .finite (n₁ && n₂) 0 else ofUnits (sum < 0) (roundUnits sum.natAbs 1)
  | .infinite n₁, .infinite n₂ => if n₁ = n₂ then .infinite n₁ else .nan
  | .infinite n, .finite _ _ => .infinite n
  | .finite _ _, .infinite n => .infinite n
  | .nan, _ => .nan
  | _, .nan => .nan

/-- The rounded difference. -/
def sub (a b : Binary64) : Binary64 := add a (neg b)

/-- A finite number that is a whole number. -/
def isWhole : Binary64 → Bool
  | .finite _ units => units % unitsPerOne == 0
  | _ => false

/-- The whole part of a finite number, toward zero. -/
def truncate? : Binary64 → Option Int
  | .finite negative units =>
    let whole : Int := units / unitsPerOne
    some (if negative then -whole else whole)
  | _ => none

end Binary64

end FrontPage
