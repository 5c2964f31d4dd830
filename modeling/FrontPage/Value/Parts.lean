import FrontPage.Value.Kind

/-!
# Parts of values

Operations on records, lists and texts are also asked of other values, and then fail in one of three ways (`Misuse`).
Lists, texts and records have parts (`Value.parts`), a value of two parts is a pair (`Value.pair`), and what consists of
pairs is as good as a record (`Value.asFields`).
-/

namespace FrontPage

/-- How a value fails to be what an operation needs. -/
inductive Misuse where
  /-- Values of the kind do not have the operation. -/
  | noOperation
  /-- The value is of a kind that the operation does not take. -/
  | wrongKind
  /-- The value does not have the number of parts that the operation needs. -/
  | wrongLength
  deriving DecidableEq, Repr

namespace Value

/-- The parts of a value: the items of a list, the characters of a text, the names of a record's fields. -/
def parts : Value → Except Misuse (List Value)
  | .list items => .ok items
  | .text s => .ok (s.toList.map fun c => .text (String.singleton c))
  | .record fields => .ok (fields.map fun field => .text field.1)
  | _ => .error .wrongKind

/-- The two parts of a value that has two. -/
def pair (value : Value) : Except Misuse (Value × Value) := do
  match ← value.parts with
  | [a, b] => pure (a, b)
  | _ => throw .wrongLength

/-- The value can be looked up, though only texts are names of fields; lists and records cannot. -/
def isName : Value → Bool
  | .list _ => false
  | .record _ => false
  | _ => true

/-- The fields with one more, whose name is a value; a name that is no text names no field. -/
def addField (fields : Record) (name value : Value) : Except Misuse Record :=
  match name with
  | .text name => .ok (Record.set fields name value)
  | name => if name.isName then .ok fields else .error .wrongKind

/-- The fields of a record, or of a value that consists of pairs of a name and a value. -/
def asFields : Value → Except Misuse Record
  | .record fields => .ok fields
  | value => do
    (← value.parts).foldlM (fun fields part => do
      let (name, value) ← part.pair
      addField fields name value) []

/-- The field of a record that a value names; other values have no fields. -/
def field (value name : Value) : Except Misuse Value :=
  match value, name with
  | .record fields, .text name => .ok (Record.get fields name)
  | .record _, name => if name.isName then .ok .null else .error .wrongKind
  | _, _ => .error .noOperation

/-- The records that values are, if they all are records. -/
def records (values : List Value) : Except Misuse (List Record) :=
  values.mapM fun value =>
    match value with
    | .record fields => .ok fields
    | _ => .error .noOperation

@[simp] theorem parts_list (items : List Value) : (Value.list items).parts = .ok items := rfl

end Value

end FrontPage
