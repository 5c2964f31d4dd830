import FrontPage.Text.Keyword
import FrontPage.Text.Word
import FrontPage.Value.Numeral
import FrontPage.Value.Parts
import FrontPage.Value.Text

/-!
# Clauses that select articles

An article group says with a clause which articles it takes: `1=1` takes all, `0=1` none, and `field = literal` those
whose field has the literal's value. The word WHERE may stand in front. `Clause.read?` reads a clause and
`Clause.selects` decides about a record; what cannot be read selects nothing.
-/

namespace FrontPage

/-- What a field is compared with. -/
inductive Literal where
  | text (s : String)
  /-- A number, as it is written. -/
  | number (numeral : String)
  deriving DecidableEq, Repr

/-- A rule that a record satisfies or not. -/
inductive Clause where
  | always
  | never
  | equals (field : String) (literal : Literal)
  deriving DecidableEq, Repr

namespace Clause

/-- The text without the word WHERE and the blanks around it, if it begins so. -/
def withoutWhere (text : List Char) : List Char :=
  match Text.afterKeyword? "where".toList (text.dropWhile Text.isBlank) with
  | some (c :: rest) => if Text.isBlank c then rest.dropWhile Text.isBlank else text
  | _ => text

/-- What follows an equals sign with any blanks around it. -/
def afterEquals? (text : List Char) : Option (List Char) :=
  match text.dropWhile Text.isBlank with
  | '=' :: rest => some (rest.dropWhile Text.isBlank)
  | _ => none

/-- The text between quotes, when the whole text is that. -/
def quoted? : List Char → Option (List Char)
  | [] => none
  | mark :: rest =>
    if mark = '\'' || mark = '"' then
      match rest.dropWhile (· ≠ mark) with
      | [_] => some (rest.takeWhile (· ≠ mark))
      | _ => none
    else none

/-- The text is a decimal number: a sign, digits, and a point only with digits behind it. -/
def isDecimal (text : List Char) : Bool :=
  match Numeral.read? text with
  | some n => !n.whole.isEmpty && n.fraction != some [] && n.exponent.isNone
  | none => false

/-- The literal that a whole text writes. -/
def literal? (text : List Char) : Option Literal :=
  match quoted? text with
  | some content => some (.text (String.ofList content))
  | none => if isDecimal text then some (.number (String.ofList text)) else none

/-- The clause that a text writes. -/
def read? (text : String) : Option Clause :=
  let body := Text.trim (withoutWhere text.toList)
  let field := body.takeWhile Text.isWordChar
  match afterEquals? (body.dropWhile Text.isWordChar) with
  | none => none
  | some right =>
    if field = ['1'] && right = ['1'] then some .always
    else if field = ['0'] && right = ['1'] then some .never
    else if field.isEmpty then none
    else (literal? right).map (.equals (String.ofList field))

/-- A field's value has the value of a literal: the same text, or the same number. -/
def matchesLiteral (value : Value) : Literal → Bool
  | .text s => value.toTextOrEmpty == s
  | .number numeral =>
    match value.toNumber?, textNumber? numeral with
    | some m, some n => m.equals n
    | _, _ => false

/-- The record satisfies the clause. -/
def holds (record : Record) : Clause → Bool
  | always => true
  | never => false
  | equals field literal => matchesLiteral (Record.get record field) literal

/-- The record satisfies the clause that a value writes; a value that writes none selects nothing. -/
def selects (clause : Value) (record : Record) : Bool :=
  match clause with
  | .text s => ((read? s).map (holds record)).getD false
  | _ => false

/-- As `selects`, about a value, which must be a record only if the clause names a field. -/
def selectsValue (clause value : Value) : Except Misuse Bool :=
  match clause, value with
  | clause, .record record => .ok (selects clause record)
  | .text s, _ =>
    match read? s with
    | some (.equals ..) => .error .noOperation
    | clause? => .ok ((clause?.map (holds [])).getD false)
  | _, _ => .ok false

end Clause

end FrontPage
