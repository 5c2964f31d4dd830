import FrontPage.Text.Visible
import FrontPage.Value

/-!
# The text of a value

`Value.toText` writes a value as pages and messages show it: a text is itself, nothing is `None`, truth values are
`True` and `False`. Inside lists and records texts are quoted (`quote`), with single quotes unless only double quotes
avoid an escape.
-/

namespace FrontPage

/-- Two hexadecimal digits of a number below 256. -/
def hexPair (n : Nat) : List Char := [Nat.digitChar (n / 16), Nat.digitChar (n % 16)]

/-- The hexadecimal digits of a code point, as many as its size asks for, behind the letter that says how many. -/
def hexEscape (n : Nat) : List Char :=
  if n < 0x100 then 'x' :: hexPair n
  else if n < 0x10000 then 'u' :: (hexPair (n / 0x100) ++ hexPair (n % 0x100))
  else 'U' :: (hexPair 0 ++ hexPair (n / 0x10000) ++ hexPair (n / 0x100 % 0x100) ++ hexPair (n % 0x100))

/-- A character of a quoted text; one that is not visible is escaped. -/
def quoteChar (mark c : Char) : List Char :=
  if c = mark || c = '\\' then ['\\', c]
  else if c = '\n' then ['\\', 'n']
  else if c = '\r' then ['\\', 'r']
  else if c = '\t' then ['\\', 't']
  else if Text.isVisible c then [c]
  else '\\' :: hexEscape c.toNat

/-- The text in quotes: double ones if it holds a single quote and no double one, otherwise single ones. -/
def quote (text : String) : String :=
  let mark := if text.toList.contains '\'' && !text.toList.contains '"' then '"' else '\''
  String.ofList (mark :: (text.toList.flatMap (quoteChar mark) ++ [mark]))

namespace Value

mutual

/-- The text of a value inside a list or a record, texts in quotes. -/
def quoted : Value → String
  | .null => "None"
  | .bool true => "True"
  | .bool false => "False"
  | .number n => n.text
  | .text s => quote s
  | .list items => "[" ++ ", ".intercalate (quotedItems items) ++ "]"
  | .record fields => "\x7b" ++ ", ".intercalate (quotedFields fields) ++ "\x7d"

/-- The texts of the items of a list. -/
def quotedItems : List Value → List String
  | [] => []
  | item :: rest => item.quoted :: quotedItems rest

/-- The texts of the fields of a record. -/
def quotedFields : List (String × Value) → List String
  | [] => []
  | (name, value) :: rest => (quote name ++ ": " ++ value.quoted) :: quotedFields rest

end

/-- The text of a value; a text is its own. Numbers in it are written as `Number.text` does, without a bound on their
digits. -/
def toText : Value → String
  | .text s => s
  | value => value.quoted

/-- The text of a value, nothing giving the empty one. -/
def toTextOrEmpty : Value → String
  | .null => ""
  | value => value.toText

end Value

end FrontPage
