import FrontPage.Text.Blank
import FrontPage.Text.Scan
import FrontPage.Value.Text

/-!
# Menus of articles

An article names its place in the menus as `menu - sub menu`. `resolveMenu` looks that name up in the menus document, a
list of records, and gives the article the identifiers of the first record that has it. An entry that is no record ends
the search without a result.
-/

namespace FrontPage

/-- A part of a menu's name; a value that does not hold is blank. -/
def menuPart (entry : Record) (field : String) : String := ((Record.get entry field).orElse (.text "")).toText

/-- The full name of a record of the menus document. -/
def menuName (entry : Record) : String := menuPart entry "menu" ++ " - " ++ menuPart entry "sub_menu"

/-- The first record of a name, if only records come before it. -/
def findMenu? (name : String) : List Value → Option Record
  | [] => none
  | .record entry :: rest => if menuName entry = name then some entry else findMenu? name rest
  | _ :: _ => none

/-- The full name of an article's menu, if the article gives one. -/
def menuNameOf? (article : Record) : Option String :=
  match Record.get article "menu" with
  | .text menu =>
    let name := Text.trim menu.toList
    if (Text.cut? " - ".toList name).isSome then some (String.ofList name) else none
  | _ => none

/-- The article with the identifiers of a record of the menus document. -/
def withMenu (article entry : Record) : Record :=
  Record.set (Record.set article "menu_id" (Record.get entry "menu_id")) "sub_menu_id" (Record.get entry "sub_menu_id")

/-- The article with the identifiers of its menu, if the menus document has it. -/
def resolveMenu (article : Record) (document : Option Value) : Record :=
  match menuNameOf? article, document with
  | some name, some (.list entries) =>
    match findMenu? name entries with
    | some entry => withMenu article entry
    | none => article
  | _, _ => article

end FrontPage
