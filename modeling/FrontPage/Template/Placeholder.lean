import FrontPage.Text.Keyword
import FrontPage.Text.Scan
import FrontPage.Text.Word
import FrontPage.Value.Parts
import FrontPage.Value.Text

/-!
# Placeholders of a template

A placeholder is a key in double braces. `substitute` puts the text of a record's field in its place, nothing being
empty; a key that the record lacks leaves the placeholder as it is. The texts put in are not looked at again.
-/

namespace FrontPage

/-- The key of a placeholder at the beginning of a text. -/
def readPlaceholder? : Text.Reader String := fun text => do
  let inner ← Text.after? ['{', '{'] text
  let key := inner.takeWhile Text.isWordChar
  if key.isEmpty then none
  else do
    let rest ← Text.after? ['}', '}'] (inner.dropWhile Text.isWordChar)
    pure (String.ofList key, rest)

/-- The placeholder of a key. -/
def placeholder (key : String) : List Char := ['{', '{'] ++ key.toList ++ ['}', '}']

/-- What stands in the place of a placeholder for a record. -/
def fieldText (record : Record) (key : String) : List Char :=
  match Record.get? record key with
  | some value => value.toTextOrEmpty.toList
  | none => placeholder key

/-- The text with the placeholders of a record's fields replaced. -/
def substitute (record : Record) (text : List Char) : List Char :=
  (Text.scan readPlaceholder? text).flatMap fun
    | .inl c => [c]
    | .inr key => fieldText record key

/-- The keys of the placeholders of a text. -/
def placeholderKeys (text : List Char) : List String :=
  (Text.scan readPlaceholder? text).filterMap fun
    | .inl _ => none
    | .inr key => some key

/-- Asking a value that is no record for a key fails, unless it can say that it lacks the key. -/
def Value.failsOn (key : String) : Value → Bool
  | .list items => items.any fun item => item.equals (.text key)
  | .text s => (Text.cut? key.toList s.toList).isSome
  | _ => true

/-- A text with its placeholders replaced by what a value has for their keys. -/
def substituteValue (value text : Value) : Except Misuse String :=
  match text, value with
  | .text text, .record record => .ok (String.ofList (substitute record text.toList))
  | .text text, value =>
    if (placeholderKeys text.toList).any fun key => value.failsOn key then .error .wrongKind else .ok text
  | _, _ => .error .wrongKind

end FrontPage
