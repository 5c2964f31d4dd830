import FrontPage.Number.Decimal

/-!
# Numbers

A number is an integer of any size or a binary64 number. The two kinds compare by exact value, whichever kind they are
of (`Number.place?` puts both on one scale); arithmetic on two integers stays in the integers and anything else goes
through binary64.
-/

namespace FrontPage

/-- An integer of any size or a binary floating-point number. -/
inductive Number where
  | int (n : Int)
  | float (x : Binary64)
  deriving DecidableEq, Repr, Inhabited

/-- A place on the number line: an end of it, or a count of units of 2⁻¹⁰⁷⁴. -/
inductive Place where
  | bottom
  | units (n : Int)
  | top
  deriving DecidableEq, Repr

/-- The order of the number line. -/
def Place.compare : Place → Place → Ordering
  | .bottom, .bottom => .eq
  | .bottom, _ => .lt
  | _, .bottom => .gt
  | .top, .top => .eq
  | .top, _ => .gt
  | _, .top => .lt
  | .units a, .units b => Ord.compare a b

namespace Number

/-- Where a number stands; what is not a number stands nowhere. -/
def place? : Number → Option Place
  | .int n => some (.units (n * unitsPerOne))
  | .float (.finite negative units) => some (.units (if negative then -units else units))
  | .float (.infinite true) => some .bottom
  | .float (.infinite false) => some .top
  | .float .nan => none

/-- The order of two numbers by exact value; there is none with what is not a number. -/
def compare? (a b : Number) : Option Ordering :=
  match a.place?, b.place? with
  | some p, some q => some (p.compare q)
  | _, _ => none

/-- The numbers have the same value. -/
def equals (a b : Number) : Bool := a.compare? b == some .eq

/-- The first number is smaller. -/
def less (a b : Number) : Bool := a.compare? b == some .lt

/-- The first number is smaller or equal. -/
def lessEqual (a b : Number) : Bool := a.less b || a.equals b

/-- The number has the value zero. -/
def isZero (a : Number) : Bool := a.equals (.int 0)

/-- The number is above zero. -/
def isPositive (a : Number) : Bool := (Number.int 0).less a

/-- Why a number has no whole part. -/
inductive TruncationError where
  | notANumber
  | infinite
  deriving DecidableEq, Repr

/-- The whole part of a number, toward zero. -/
def truncate : Number → Except TruncationError Int
  | .int n => .ok n
  | .float .nan => .error .notANumber
  | .float x => (x.truncate?).elim (.error .infinite) .ok

/-- The number as a binary64 number, if it is not too large. -/
def toBinary64? : Number → Option Binary64
  | .int n => Binary64.ofInt? n
  | .float x => some x

/-- An operation on integers or, if one of the numbers is none, on binary64 numbers; there is no result when an
integer is too large for that. -/
def combine? (onInts : Int → Int → Int) (onFloats : Binary64 → Binary64 → Binary64) : Number → Number → Option Number
  | .int a, .int b => some (.int (onInts a b))
  | a, b =>
    match a.toBinary64?, b.toBinary64? with
    | some x, some y => some (.float (onFloats x y))
    | _, _ => none

/-- The sum of two numbers. -/
def add? : Number → Number → Option Number := combine? (· + ·) Binary64.add

/-- The difference of two numbers. -/
def sub? : Number → Number → Option Number := combine? (· - ·) Binary64.sub

/-- The text of a number. Integers are written with all their digits, however many; only documents are bounded in what
they are read from (`Json.mostDigits`). -/
def text : Number → String
  | .int n => toString n
  | .float x => x.text

/-- Integers compare as such. -/
theorem compare?_int (m n : Int) : (Number.int m).compare? (.int n) = some (Ord.compare m n) := by
  have hp : (0 : Int) < (unitsPerOne : Int) := by
    have := unitsPerOne_pos
    omega
  have h₁ : m * (unitsPerOne : Int) < n * unitsPerOne ↔ m < n := Int.mul_lt_mul_right hp
  have h₂ : m * (unitsPerOne : Int) = n * unitsPerOne ↔ m = n := Int.mul_eq_mul_right_iff (by omega)
  have hc (a b : Int) : Ord.compare a b = if a < b then .lt else if a = b then .eq else .gt := rfl
  simp only [compare?, place?, Place.compare, hc, h₁, h₂]

end Number

end FrontPage
