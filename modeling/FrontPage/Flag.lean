import FrontPage.Slots

/-!
# Flags

An article holds flags: nine of highlights and nine of article groups, each with the layout that limits it. Flags are
numbered highlights first.
-/

namespace FrontPage

/-- A place on the front page that an article can hold. -/
inductive Flag where
  | highlight (slot : Fin 9)
  | articleGroup (slot : Fin 9)
  deriving DecidableEq, Repr

namespace Flag

/-- The flag of a number. -/
def ofIndex (k : Fin 18) : Flag :=
  if h : k.val < 9 then .highlight ⟨k.val, h⟩ else .articleGroup ⟨k.val - 9, by omega⟩

/-- The number of a flag. -/
def index : Flag → Fin 18
  | .highlight slot => ⟨slot.val, by omega⟩
  | .articleGroup slot => ⟨slot.val + 9, by omega⟩

@[simp] theorem ofIndex_index (flag : Flag) : ofIndex flag.index = flag := by
  cases flag with
  | highlight slot => simp [ofIndex, index]
  | articleGroup slot => simp [ofIndex, index]

@[simp] theorem index_ofIndex (k : Fin 18) : (ofIndex k).index = k := by
  revert k
  decide

instance : Numbered Flag where
  size := 18
  all := Vector.ofFn ofIndex
  index := index
  all_index flag := by simp
  index_all k := by simp

/-- All flags, highlights first. -/
def all : List Flag := Numbered.list Flag

/-- The column that says who holds the flag. -/
def column : Flag → String
  | .highlight slot => "highlight" ++ toString (slot.val + 1) ++ "_flag"
  | .articleGroup slot => "articlegroup" ++ toString (slot.val + 1) ++ "_flag"

/-- The name of the layout that limits the flag. -/
def layoutName : Flag → String
  | .highlight slot => "Highlight" ++ toString (slot.val + 1)
  | .articleGroup slot => "ArticleGroup" ++ toString (slot.val + 1)

/-- The flag of a column. -/
def ofColumn? (name : String) : Option Flag := all.find? fun flag => flag.column == name

/-- The text of a flag that is held or not. -/
def word (held : Bool) : String := if held then "Yes" else "No"

end Flag

end FrontPage
