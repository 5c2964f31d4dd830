import FrontPage.Value
import FrontPage.Text.Blank
import FrontPage.Text.Case
import FrontPage.Text.Digit

/-!
# Numerals and yes

Texts stand for numbers and for consent. A numeral has a sign, digits of any script with or without a point, and an
exponent (`Numeral.read?`); it stands for the binary64 number nearest to it, as an integer when it has neither point
nor exponent and is not too large (`Numeral.value`). `Value.toNumber?` reads a value as a number and `Value.isYes` as
consent; truth values are no numbers.
-/

namespace FrontPage

/-- The parts of a numeral. -/
structure Numeral where
  negative : Bool
  whole : List Char
  /-- The digits behind the point, if there is a point. -/
  fraction : Option (List Char)
  /-- The sign and the digits of the exponent, if there is one. -/
  exponent : Option (Bool × List Char)
  deriving DecidableEq, Repr

namespace Numeral

/-- A sign, if there is one, and the text behind it; the sign is true when it is a minus. -/
def readSign : List Char → Bool × List Char
  | '-' :: rest => (true, rest)
  | '+' :: rest => (false, rest)
  | text => (false, text)

/-- A point with digits behind it, if there is one, and the text behind them. -/
def readFraction : List Char → Option (List Char) × List Char
  | '.' :: rest => (some (rest.takeWhile Text.isDecimalDigit), rest.dropWhile Text.isDecimalDigit)
  | text => (none, text)

/-- The exponent that makes up a whole text: an E, a sign and digits, or nothing at all. -/
def readExponent? : List Char → Option (Option (Bool × List Char))
  | [] => some none
  | c :: rest =>
    let (negative, digits) := readSign rest
    if (c = 'e' || c = 'E') && !digits.isEmpty && digits.all Text.isDecimalDigit then some (some (negative, digits))
    else none

/-- The numeral that makes up a whole text. It has a digit before the point or behind it. -/
def read? (text : List Char) : Option Numeral :=
  let (negative, unsigned) := readSign text
  let whole := unsigned.takeWhile Text.isDecimalDigit
  let (fraction, rest) := readFraction (unsigned.dropWhile Text.isDecimalDigit)
  if whole.isEmpty && (fraction.getD []).isEmpty then none
  else (readExponent? rest).map fun exponent => ⟨negative, whole, fraction, exponent⟩

/-- The power of ten of the exponent. -/
def exponentValue (n : Numeral) : Int :=
  match n.exponent with
  | none => 0
  | some (negative, digits) => if negative then -(Text.digitsValue digits : Int) else Text.digitsValue digits

/-- The binary64 number nearest to the numeral. -/
def nearest (n : Numeral) : Binary64 :=
  let fraction := n.fraction.getD []
  Binary64.ofDecimal n.negative (Text.digitsValue (n.whole ++ fraction)) (n.exponentValue - fraction.length)

/-- The number that the numeral stands for: an integer when it is written as one and is finite. -/
def value (n : Numeral) : Number :=
  if n.fraction.isNone && n.exponent.isNone then
    match n.nearest.truncate? with
    | some whole => .int whole
    | none => .float n.nearest
  else .float n.nearest

end Numeral

/-- The number that a text stands for, blanks at its ends left out. -/
def textNumber? (text : String) : Option Number := (Numeral.read? (Text.trim text.toList)).map Numeral.value

namespace Value

/-- The number that a value stands for: numbers stand for themselves and numerals for their value. -/
def toNumber? : Value → Option Number
  | .number n => some n
  | .text s => textNumber? s
  | _ => none

/-- The value is the word yes in any letter case, with or without blanks around it. -/
def isYes : Value → Bool
  | .text s => Text.lower (String.ofList (Text.trim s.toList)) == "yes"
  | _ => false

@[simp] theorem toNumber?_number (n : Number) : (Value.number n).toNumber? = some n := rfl

end Value

end FrontPage
