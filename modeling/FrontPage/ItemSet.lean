import FrontPage.Layout.Basic
import FrontPage.Value.Parts

/-!
# Articles by flag

An `ItemSet` holds the articles that pages are made of, and groups them by every field that ends in `_flag` and says
yes. A highlight layout selects the group of its flag, any other layout all articles.
-/

namespace FrontPage

/-- A field that can say whether a flag is held. -/
def isFlagField (name : String) : Bool := Text.ends "_flag" name

/-- The groups with an article added to one of them. -/
def addToGroup (name : String) (article : Record) : List (String × List Record) → List (String × List Record)
  | [] => [(name, [article])]
  | (n, group) :: rest =>
    if n = name then (n, group ++ [article]) :: rest else (n, group) :: addToGroup name article rest

/-- The flags that an article holds. -/
def heldFlags (article : Record) : List String :=
  (article.filter fun field => isFlagField field.1 && field.2.isYes).map (·.1)

/-- The groups with an article added to those of its flags. -/
def groupArticle (groups : List (String × List Record)) (article : Record) : List (String × List Record) :=
  (heldFlags article).foldl (fun groups name => addToGroup name article groups) groups

/-- The articles grouped by the flags that they hold. -/
def groupByFlag (articles : List Record) : List (String × List Record) := articles.foldl groupArticle []

/-- The parts of a value, which must be records, grouped by the flags that they hold. -/
def groupValues (articles : Value) : Except Misuse (List (String × List Record)) := do
  pure (groupByFlag (← Value.records (← articles.parts)))

/-- Articles with their groups. -/
structure ItemSet where
  all : List Record
  byFlag : List (String × List Record)

namespace ItemSet

/-- Articles with their groups made. -/
def ofArticles (articles : List Record) : ItemSet := ⟨articles, groupByFlag articles⟩

/-- The articles that hold a flag. -/
def group (items : ItemSet) (flag : String) : List Record := (items.byFlag.lookup flag).getD []

/-- The articles of a layout. -/
def select (items : ItemSet) (layout : Layout) : List Record :=
  match layout.flagColumn? with
  | some flag => items.group flag
  | none => items.all

end ItemSet

end FrontPage
