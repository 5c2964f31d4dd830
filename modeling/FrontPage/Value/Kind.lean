import FrontPage.Value

/-!
# Kinds of values

Messages name the kind of a value that is not of the kind they need.
-/

namespace FrontPage

/-- The kinds of values. -/
inductive ValueKind where
  | nothing
  | truth
  | integer
  | real
  | text
  | list
  | record
  deriving DecidableEq, Repr

/-- The kind of a value. -/
def Value.kind : Value → ValueKind
  | .null => .nothing
  | .bool _ => .truth
  | .number (.int _) => .integer
  | .number (.float _) => .real
  | .text _ => .text
  | .list _ => .list
  | .record _ => .record

/-- The name of a kind in messages. -/
def ValueKind.name : ValueKind → String
  | .nothing => "NoneType"
  | .truth => "bool"
  | .integer => "int"
  | .real => "float"
  | .text => "str"
  | .list => "list"
  | .record => "dict"

end FrontPage
