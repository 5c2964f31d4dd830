import FrontPage.Flag
import FrontPage.Roster.Cell

/-!
# Columns of the roster

The roster keeps of an article what its pages may show, and its flags. `Column` lists the columns besides the article's
identifier in the order of the table; a `Row` has a cell for each.
-/

namespace FrontPage

/-- A column of the roster besides the identifier of the article. -/
inductive Column where
  | issueDate
  | startingDate
  | endingDate
  | subMenuId
  | menu
  | heading
  | body
  | picture
  | secondPicture
  | byLine
  | flag (f : Flag)
  | uniqueFile
  | active
  | createdBy
  | creationDate
  | lastUpdatedBy
  | lastUpdateDate
  deriving DecidableEq, Repr

namespace Column

/-- The columns in front of the flags. -/
def leading : Vector Column 10 :=
  #v[issueDate, startingDate, endingDate, subMenuId, menu, heading, body, picture, secondPicture, byLine]

/-- The columns behind the flags. -/
def trailing : Vector Column 6 := #v[uniqueFile, active, createdBy, creationDate, lastUpdatedBy, lastUpdateDate]

/-- The column of a number. -/
def ofIndex (k : Fin 34) : Column :=
  if h : k.val < 10 then leading[k.val]
  else if h' : k.val < 28 then .flag (Flag.ofIndex ⟨k.val - 10, by omega⟩)
  else trailing[k.val - 28]

/-- The number of a column. -/
def index : Column → Fin 34
  | issueDate => 0
  | startingDate => 1
  | endingDate => 2
  | subMenuId => 3
  | menu => 4
  | heading => 5
  | body => 6
  | picture => 7
  | secondPicture => 8
  | byLine => 9
  | flag f => ⟨f.index.val + 10, by omega⟩
  | uniqueFile => 28
  | active => 29
  | createdBy => 30
  | creationDate => 31
  | lastUpdatedBy => 32
  | lastUpdateDate => 33

@[simp] theorem ofIndex_index (column : Column) : ofIndex column.index = column := by
  cases column with
  | flag f =>
    have h : ¬f.index.val + 10 < 10 := by omega
    have h' : f.index.val + 10 < 28 := by omega
    simp [ofIndex, index, h, h']
  | _ => rfl

@[simp] theorem index_ofIndex (k : Fin 34) : (ofIndex k).index = k := by
  revert k
  decide

instance : Numbered Column where
  size := 34
  all := Vector.ofFn ofIndex
  index := index
  all_index column := by simp
  index_all k := by simp

/-- All columns in the order of the table. -/
def all : List Column := Numbered.list Column

/-- The name of a column. -/
def name : Column → String
  | issueDate => "issue_date"
  | startingDate => "starting_date"
  | endingDate => "ending_date"
  | subMenuId => "sub_menu_id"
  | menu => "menu"
  | heading => "heading"
  | body => "body"
  | picture => "picture_location"
  | secondPicture => "picture2_location"
  | byLine => "by_line"
  | flag f => f.column
  | uniqueFile => "unique_file"
  | active => "active"
  | createdBy => "created_by"
  | creationDate => "creation_date"
  | lastUpdatedBy => "last_updated_by"
  | lastUpdateDate => "last_update_date"

/-- The column holds integers; the others hold texts. -/
def isInteger : Column → Bool
  | issueDate | startingDate | endingDate | subMenuId | createdBy | creationDate | lastUpdatedBy | lastUpdateDate =>
    true
  | _ => false

/-- The cell that a value becomes in a column. -/
def cell (column : Column) (value : Value) : Cell :=
  if column.isInteger then (Cell.ofValue value).asInteger else (Cell.ofValue value).asText

end Column

/-- What the roster keeps of an article. -/
abbrev Row := Slots Column Cell

/-- The name of the column that holds the identifier of the article. -/
def idColumn : String := "article_id"

namespace Row

/-- The flag is held. -/
def holds (row : Row) (flag : Flag) : Bool := row.get (.flag flag) == .text (Flag.word true)

/-- The row with a column changed. -/
def set (row : Row) (column : Column) (cell : Cell) : Row :=
  Slots.ofFn fun other => if other = column then cell else row.get other

/-- The row of an article as a record. -/
def record (id : Int) (row : Row) : Record :=
  (idColumn, .int id) :: Column.all.map fun column => (column.name, (row.get column).toValue)

end Row

end FrontPage
