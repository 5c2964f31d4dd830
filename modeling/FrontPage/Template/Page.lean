import FrontPage.Layout.Basic
import FrontPage.Sorting
import FrontPage.Template.Conditional
import FrontPage.Template.Placeholder
import FrontPage.Value.Kind

/-!
# Pages

`renderPage` fills a layout's body with articles. The display name goes in first; then the block between the first
repeat tags is rendered once per article (`renderBlock`), until the position of an article reaches the limit. The limit
is the layout's, or the number of articles when that is zero, and a chosen branch with a number replaces it from its own
article on (`renderRepeats`). Style and script of the layout follow the page.
-/

namespace FrontPage

/-- Why a layout cannot be rendered. -/
inductive PageError where
  | invalidSortField (field : String)
  | repeatEndsFirst
  | bodyNotText (kind : ValueKind)
  | displayNameNotText (kind : ValueKind)
  | orderNotText (kind : ValueKind)
  deriving DecidableEq, Repr

/-- The text that reports why a layout cannot be rendered. -/
def PageError.message : PageError → String
  | .invalidSortField field => "Invalid field in layout_order: " ++ field
  | .repeatEndsFirst => "\x7b\x7bRepeatEnd\x7d\x7d appears before \x7b\x7bRepeatBegin\x7d\x7d"
  | .bodyNotText kind => "'" ++ kind.name ++ "' object has no attribute 'replace'"
  | .displayNameNotText kind => "replace() argument 2 must be str, not " ++ kind.name
  | .orderNotText kind => "'" ++ kind.name ++ "' object has no attribute 'split'"

/-- The tag that the display name replaces. -/
def displayNameTag : List Char := placeholder "LayoutDisplayName"

/-- The tag at the beginning of the repeated block. -/
def repeatBeginTag : List Char := placeholder "RepeatBegin"

/-- The tag at the end of the repeated block. -/
def repeatEndTag : List Char := placeholder "RepeatEnd"

/-- The field that holds an article's position on the page. -/
def counterField : String := "Counter"

/-- A body: one text, or a block to repeat with the texts around it. -/
inductive Skeleton where
  | plain (text : List Char)
  | repeating (before block behind : List Char)
  deriving DecidableEq, Repr

/-- The parts of a body around its first repeat tags. -/
def Skeleton.read (text : List Char) : Except PageError Skeleton :=
  match Text.cut? repeatBeginTag text with
  | none => .ok (.plain text)
  | some (before, rest) =>
    if (Text.cut? repeatEndTag before).isSome then .error .repeatEndsFirst
    else
      match Text.cut? repeatEndTag rest with
      | none => .ok (.plain text)
      | some (block, behind) => .ok (.repeating before block behind)

/-- The article as a block at a position sees it. -/
def atPosition (article : Record) (position : Nat) : Record :=
  Record.set article counterField (.int position)

/-- The block for an article at a position, and the limit that it sets. -/
def renderBlock (block : List Char) (article : Record) (position : Nat) : Resolved :=
  let view := atPosition article position
  let resolved := resolveBlock view block
  ⟨substitute view resolved.text, resolved.limit⟩

/-- The blocks of the articles from a position on, until a position reaches the limit. -/
def renderRepeats (block : List Char) (limit : Number) (position : Nat) : List Record → List (List Char)
  | [] => []
  | article :: rest =>
    let rendered := renderBlock block article position
    let limit := rendered.limit.getD limit
    rendered.text ::
      if limit.lessEqual (.int position) then [] else renderRepeats block limit (position + 1) rest

/-- A page and how many articles are on it. -/
structure Page where
  html : String
  articleCount : Nat
  deriving DecidableEq, Repr

/-- A value in an element of the page, unless it does not hold. -/
def inElement (name : String) (value : Value) : String :=
  if value.holds then "<" ++ name ++ ">" ++ value.toText ++ "</" ++ name ++ ">" else ""

/-- The body of a layout with its display name in it. -/
def Layout.template (layout : Layout) : Except PageError (List Char) :=
  match layout.body.orElse (.text ""), layout.displayName.orElse (.text "") with
  | .text body, .text name => .ok (Text.replaceAll displayNameTag name.toList body.toList)
  | .text _, name => .error (.displayNameNotText name.kind)
  | body, _ => .error (.bodyNotText body.kind)

/-- The limit that the first article of a page meets. -/
def Layout.firstLimit (layout : Layout) (count : Nat) : Number :=
  if layout.limit.isZero then .int count else layout.limit

/-- The page of a layout with articles that are selected and sorted. -/
def renderPage (layout : Layout) (articles : List Record) : Except PageError Page := do
  let template ← layout.template
  let skeleton ← Skeleton.read template
  let (text, count) :=
    match skeleton with
    | .plain text => (text, 0)
    | .repeating before block behind =>
      let blocks := renderRepeats block (layout.firstLimit articles.length) 1 articles
      (before ++ blocks.flatten ++ behind, blocks.length)
  pure ⟨String.ofList text ++ inElement "style" layout.css ++ inElement "script" layout.script, count⟩

/-- The specification that a value writes; a value that does not hold writes an empty one. -/
def SortSpec.ofValue (order : Value) : Except PageError SortSpec :=
  match order.orElse (.text "") with
  | .text order =>
    match SortSpec.read order with
    | .ok spec => .ok spec
    | .error e => .error (.invalidSortField e.field)
  | order => .error (.orderNotText order.kind)

/-- The fields that a layout's articles are sorted by. -/
def Layout.sortSpec (layout : Layout) : Except PageError SortSpec := SortSpec.ofValue layout.order

end FrontPage
