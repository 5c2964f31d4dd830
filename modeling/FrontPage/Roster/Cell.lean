import FrontPage.Number
import FrontPage.Roster.Conversion

/-!
# Cells of the roster

A cell of a table holds nothing, a 64-bit integer, a binary64 number or a text. A value becomes a cell (`Cell.ofValue`)
unless it is a list, a record or too large an integer (`refusal?`). A column then converts the cells put into it: an
integer column reads texts as numbers and makes whole numbers integers (`Cell.asInteger`), a text column writes numbers
out (`Cell.asText`).
-/

namespace FrontPage

/-- What a field of a table holds. -/
inductive Cell where
  | null
  | int (n : Int)
  | real (x : Binary64)
  | text (s : String)
  deriving DecidableEq, Repr, Inhabited

/-- Why a value cannot be in a table. -/
inductive Refusal where
  | notACell
  | integerTooLarge
  deriving DecidableEq, Repr

/-- The integer has 64 bits. -/
def fitsWord (n : Int) : Bool := -9223372036854775808 ≤ n && n ≤ 9223372036854775807

/-- Why a value cannot be in a table, if it cannot. -/
def refusal? : Value → Option Refusal
  | .number (.int n) => if fitsWord n then none else some .integerTooLarge
  | .list _ => some .notACell
  | .record _ => some .notACell
  | _ => none

namespace Cell

/-- A value as a cell; what is not a number is nothing, and so is what cannot be in a table. -/
def ofValue : Value → Cell
  | .null => .null
  | .bool b => .int (if b then 1 else 0)
  | .number (.int n) => .int n
  | .number (.float .nan) => .null
  | .number (.float x) => .real x
  | .text s => .text s
  | .list _ => .null
  | .record _ => .null

/-- A cell as a value. -/
def toValue : Cell → Value
  | .null => .null
  | .int n => .int n
  | .real x => .number (.float x)
  | .text s => .text s

/-- A number as an integer when it is whole and well inside the 64-bit integers. -/
def ofReal (x : Binary64) : Cell :=
  match x.truncate? with
  | some n => if x.isWhole && -9223372036854775808 < n && n < 9223372036854775807 then .int n else .real x
  | none => .real x

/-- The ASCII blanks that may surround a number in a text. -/
def isNumberBlank (c : Char) : Bool := (9 ≤ c.toNat && c.toNat ≤ 13) || c == ' '

/-- The number that a text of ASCII characters stands for, blanks around it left out. -/
def ofNumeral? (text : List Char) : Option Cell :=
  let trimmed := ((text.dropWhile isNumberBlank).reverse.dropWhile isNumberBlank).reverse
  if trimmed.all (·.toNat < 128) then
    (Numeral.read? trimmed).map fun n =>
      let whole : Int := Text.digitsValue n.whole
      let signed := if n.negative then -whole else whole
      if n.fraction.isNone && n.exponent.isNone && fitsWord signed then .int signed else ofReal n.columnValue
  else none

/-- A cell put into an integer column. -/
def asInteger : Cell → Cell
  | .real x => ofReal x
  | .text s => (ofNumeral? s.toList).getD (.text s)
  | cell => cell

/-- A cell put into a text column. -/
def asText : Cell → Cell
  | .int n => .text (toString n)
  | .real x => .text x.columnText
  | cell => cell

/-- Rank of the kinds of cells when cells are sorted: nothing, numbers, texts. -/
def rank : Cell → Nat
  | .null => 0
  | .int _ => 1
  | .real _ => 1
  | .text _ => 2

/-- The order of cells: nothing first, then numbers by value, then texts. -/
def compare (a b : Cell) : Ordering :=
  match a, b with
  | .int m, .int n => Ord.compare m n
  | .int m, .real y => ((Number.int m).compare? (.float y)).getD .eq
  | .real x, .int n => ((Number.float x).compare? (.int n)).getD .eq
  | .real x, .real y => ((Number.float x).compare? (.float y)).getD .eq
  | .text s, .text t => Ord.compare s t
  | a, b => Ord.compare a.rank b.rank

end Cell

end FrontPage
