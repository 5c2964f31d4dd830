import FrontPage.Text.Blank
import FrontPage.Text.Keyword
import FrontPage.Text.Scan
import FrontPage.Text.Word
import FrontPage.Value.Numeral
import FrontPage.Value.Parts
import FrontPage.Value.Text

/-!
# Conditions of a template

A condition names a field and may compare it: `field`, or `field operator value` with an operator of one or two
characters. `Condition.read?` reads a condition with the blanks before it and the closing braces behind it.
`conditionHolds` decides about a record: without a comparison the field must be a number other than zero or a text that
is not blank; equality compares numbers as numbers and anything else as texts; the order of two values is the order of
numbers and holds of nothing else.
-/

namespace FrontPage

/-- The comparisons that a condition can make. -/
inductive Operator where
  | equal
  | unequal
  | less
  | greater
  | lessEqual
  | greaterEqual
  deriving DecidableEq, Repr

/-- The comparison that a text names. -/
def Operator.ofText? (text : String) : Option Operator :=
  if text = "=" || text = "==" then some .equal
  else if text = "!=" then some .unequal
  else if text = "<" then some .less
  else if text = ">" then some .greater
  else if text = "<=" then some .lessEqual
  else if text = ">=" then some .greaterEqual
  else none

/-- The value is a number other than zero, or it holds and its text is not blank. -/
def Value.isPresent (value : Value) : Bool :=
  match value.toNumber? with
  | some n => !n.isZero
  | none => value.holds && !(Text.trim value.toText.toList).isEmpty

/-- The values are equal as numbers if both stand for one, and otherwise as texts. -/
def Value.sameAs (a b : Value) : Bool :=
  match a.toNumber?, b.toNumber? with
  | some m, some n => m.equals n
  | _, _ => a.toTextOrEmpty == b.toTextOrEmpty

/-- Both values stand for numbers, and these are in the relation. -/
def Value.bothNumbers (relation : Number → Number → Bool) (a b : Value) : Bool :=
  match a.toNumber?, b.toNumber? with
  | some m, some n => relation m n
  | _, _ => false

/-- The comparison holds of two values. -/
def Operator.holds : Operator → Value → Value → Bool
  | .equal, a, b => a.sameAs b
  | .unequal, a, b => !a.sameAs b
  | .less, a, b => Value.bothNumbers (fun m n => m.less n) a b
  | .greater, a, b => Value.bothNumbers (fun m n => n.less m) a b
  | .lessEqual, a, b => Value.bothNumbers (fun m n => m.lessEqual n) a b
  | .greaterEqual, a, b => Value.bothNumbers (fun m n => n.lessEqual m) a b

/-- The text as a value, none being nothing. -/
def Value.ofText? : Option String → Value
  | some s => .text s
  | none => .null

/-- A value passes a test; without an operator that is one of the comparisons, it must be present. -/
def Value.passes (value : Value) (operator : Option String) (expected : Value) : Bool :=
  match operator.bind Operator.ofText? with
  | some comparison => comparison.holds value expected
  | none => value.isPresent

/-- A field of a record passes a test. -/
def conditionHolds (record : Record) (field : String) (operator : Option String) (expected : Value) : Bool :=
  (Record.get record field).passes operator expected

/-- The field of a value that a value names passes a test; an operator that is no text is no operator. -/
def fieldPasses (value field operator expected : Value) : Except Misuse Bool :=
  (value.field field).map fun actual =>
    match operator with
    | .text operator => actual.passes (some operator) expected
    | _ => actual.passes none expected

/-- A field with the operator and the value it is compared with, if it is. -/
structure Condition where
  field : String
  comparison : Option (String × String)
  deriving DecidableEq, Repr

namespace Condition

/-- The record passes the condition. -/
def holds (record : Record) (condition : Condition) : Bool :=
  conditionHolds record condition.field (condition.comparison.map (·.1)) (.ofText? (condition.comparison.map (·.2)))

/-- The number in the place of the value, if there is one. -/
def limit? (condition : Condition) : Option Number := condition.comparison.bind fun c => textNumber? c.2

/-- The characters of operators. -/
def isOperatorChar (c : Char) : Bool := c == '=' || c == '!' || c == '<' || c == '>'

/-- The characters of values. -/
def isValueChar (c : Char) : Bool := Text.isWordChar c || c == '.' || c == '-'

/-- An operator and a value with the closing braces behind them. -/
def readComparison? : Text.Reader (String × String) := fun text =>
  let unspaced := text.dropWhile Text.isBlank
  let operator := unspaced.takeWhile isOperatorChar
  let right := (unspaced.dropWhile isOperatorChar).dropWhile Text.isBlank
  let value := right.takeWhile isValueChar
  if operator.isEmpty || 2 < operator.length || value.isEmpty then none
  else
    (Text.after? ['}', '}'] (right.dropWhile isValueChar)).map fun rest =>
      ((String.ofList operator, String.ofList value), rest)

/-- A condition with at least one blank before it and the closing braces behind it. -/
def read? : Text.Reader Condition := fun text =>
  let unspaced := text.dropWhile Text.isBlank
  let field := unspaced.takeWhile Text.isWordChar
  let behind := unspaced.dropWhile Text.isWordChar
  if !(text.head?.map Text.isBlank).getD false || field.isEmpty then none
  else
    match Text.after? ['}', '}'] behind with
    | some rest => some (⟨String.ofList field, none⟩, rest)
    | none =>
      (readComparison? behind).map fun (comparison, rest) => (⟨String.ofList field, some comparison⟩, rest)

end Condition

end FrontPage
