import FrontPage.Text.Case
import FrontPage.Text.Keyword
import FrontPage.Value.Numeral
import FrontPage.Value.Parts
import FrontPage.Value.Text

/-!
# Layouts

A layout is an entry of the layout document: a named template with the file it is published to. Names say what a layout
is for: `Highlight…` in any letter case renders the articles of one highlight flag, `ArticleGroup…` in exactly that
case also defines a group of articles, and anything else renders all articles. Apart from its name and limit, the
fields of a layout hold whatever values the document has (`Layout.ofValue`); a value that does not hold counts as left
out.
-/

namespace FrontPage

/-- The file that a layout is published to when it names none. -/
def defaultLayoutFile : String := "layout.js"

/-- The first letters of the names of reserved layouts. -/
def defaultReservedStart : String := "menu"

/-- An entry of the layout document. -/
structure Layout where
  name : String
  body : Value := .text ""
  active : Bool := true
  displayName : Value := .text ""
  order : Value := .text ""
  /-- How many articles the layout shows; zero stands for all. -/
  limit : Number := .int 0
  file : Value := .text defaultLayoutFile
  css : Value := .text ""
  script : Value := .text ""
  /-- The rule that says which articles belong to the group of the layout. -/
  clause : Value := .null

/-- Why an entry of the layout document is no layout. -/
inductive LayoutError where
  | unnamed (entry : Value)
  | infiniteLimit

/-- The text that reports why an entry is no layout. -/
def LayoutError.message : LayoutError → String
  | .unnamed entry => "Layout entry without layout_name: " ++ entry.quoted
  | .infiniteLimit => "cannot convert float infinity to integer"

/-- What a layout is for. -/
inductive LayoutStyle where
  | highlight
  | articleGroup
  | general
  deriving DecidableEq, Repr

/-- The name of a style. -/
def LayoutStyle.name : LayoutStyle → String
  | .highlight => "highlight"
  | .articleGroup => "articlegroup"
  | .general => "general"

namespace Layout

/-- The entry says that its layout is in use: true, or the word yes. -/
def isActiveValue : Value → Bool
  | .bool b => b
  | value => value.isYes

/-- The limit that a value sets: the whole part of a number above zero, and otherwise none. -/
def limitOf (value : Value) : Except LayoutError Int :=
  match value.toNumber? with
  | none => .ok 0
  | some n =>
    if n.isPositive then
      match n.truncate with
      | .ok whole => .ok whole
      | .error _ => .error .infiniteLimit
    else .ok 0

/-- A field of an entry, or a text in its place when it does not hold. -/
def fieldOr (entry : Record) (name default : String) : Value := (Record.get entry name).orElse (.text default)

/-- The layout that an entry of the layout document describes. -/
def ofValue : Value → Except LayoutError Layout
  | .record entry =>
    let name := Record.get entry "layout_name"
    if name.holds then
      (limitOf (Record.get entry "layout_limit")).map fun limit =>
        { name := name.toText
          body := fieldOr entry "layout_body" ""
          active := isActiveValue (Record.get entry "active")
          displayName := fieldOr entry "layout_display_name" ""
          order := fieldOr entry "layout_order" ""
          limit := .int limit
          file := fieldOr entry "layout_file" defaultLayoutFile
          css := fieldOr entry "layout_css" ""
          script := fieldOr entry "layout_js" ""
          clause := Record.get entry "where_clause" }
    else .error (.unnamed (.record entry))
  | entry => .error (.unnamed entry)

/-- The layout renders the articles of one highlight flag. -/
def isHighlight (layout : Layout) : Bool := Text.begins "highlight" (Text.lower layout.name)

/-- The layout defines a group of articles. -/
def isArticleGroup (layout : Layout) : Bool := Text.begins "ArticleGroup" layout.name

/-- The layout's name begins with certain letters in any letter case. -/
def isReserved (layout : Layout) (start : String) : Bool :=
  Text.begins (Text.lower start) (Text.lower layout.name)

/-- A layout of some name is reserved by certain letters; both must be texts. -/
def reserves (start name : Value) : Except Misuse Bool :=
  match name, start with
  | .text name, .text start => .ok (({ name } : Layout).isReserved start)
  | _, _ => .error .noOperation

/-- The column of the flag whose articles a highlight layout renders. -/
def flagColumn? (layout : Layout) : Option String :=
  if layout.isHighlight then some (Text.lower layout.name ++ "_flag") else none

/-- What the layout is for. -/
def style (layout : Layout) : LayoutStyle :=
  if layout.isHighlight then .highlight else if layout.isArticleGroup then .articleGroup else .general

/-- The layout as listings show it. -/
def summary (layout : Layout) : Record :=
  [ ("layout_name", .text layout.name),
    ("layout_display_name", layout.displayName),
    ("active", .text (if layout.active then "Yes" else "No")),
    ("layout_order", layout.order),
    ("layout_limit", .number layout.limit),
    ("layout_file", layout.file),
    ("style", .text layout.style.name),
    ("where_clause", layout.clause) ]

/-- The layout in one line. -/
def description (layout : Layout) : String :=
  "<LayoutDefinition " ++ layout.name ++ " limit=" ++ layout.limit.text ++ " file=" ++ layout.file.toText ++ ">"

end Layout

end FrontPage
