import FrontPage.Template.Page

/-!
# Drafts of layouts

A draft is a layout that is given by its fields alone, outside any document: nothing is left out or corrected, and its
limit may be any value. `Draft.render` fills it with the parts of a value. They are looked at one after the other, so
that a part that is no article, or a limit that is no number, is a mistake only if the page gets that far.
-/

namespace FrontPage

/-- A layout with whatever was given as its limit. -/
structure Draft where
  layout : Layout
  limit : Value

/-- Why a draft cannot be rendered. -/
inductive DraftError where
  | page (cause : PageError)
  | misuse (cause : Misuse)
  deriving DecidableEq, Repr

namespace Draft

/-- The field without which there is no draft. -/
def nameField : String := "layout_name"

/-- The fields that a draft may have besides its name. -/
def optionalFields : List String :=
  [ "layout_body",
    "active",
    "layout_display_name",
    "layout_order",
    "layout_limit",
    "layout_file",
    "layout_css",
    "layout_js",
    "where_clause" ]

/-- The draft of some fields; it has a name and no other fields than a draft may have. -/
def ofValue : Value → Except Misuse Draft
  | .record fields =>
    let limit := Record.get fields "layout_limit"
    if Record.has fields nameField && fields.all fun f => f.1 == nameField || optionalFields.contains f.1 then
      .ok
        { layout :=
            { name := (Record.get fields nameField).toText
              body := Record.get fields "layout_body"
              displayName := Record.get fields "layout_display_name"
              limit := limit.asNumber?.getD (.int 0)
              css := Record.get fields "layout_css"
              script := Record.get fields "layout_js" }
          limit }
    else .error .wrongKind
  | _ => .error .wrongKind

/-- The articles in front of the first value that is none, and the mistake in that value if there is one. -/
def articlesOf : List Value → List Record × Option Misuse
  | [] => ([], none)
  | value :: rest =>
    match value.asFields with
    | .error misuse => ([], some misuse)
    | .ok article =>
      let (articles, mistake) := articlesOf rest
      (article :: articles, mistake)

/-- The limit holds, but is no number that a position could be compared with. -/
def hasBadLimit (draft : Draft) : Bool := draft.limit.holds && draft.limit.asNumber?.isNone

/-- The page of a draft whose body repeats a block. A limit that is no number must be replaced by the block of the first
article. Where a mistake follows the articles, the page must not get there. -/
def renderRepeating (draft : Draft) (block : List Char) (articles : List Record) (mistake : Option Misuse) :
    Except DraftError Page := do
  if draft.hasBadLimit then
    if let article :: _ := articles then
      if (renderBlock block article 1).limit.isNone then throw (.misuse .wrongKind)
  match mistake with
  | none => (renderPage draft.layout articles).mapError .page
  | some misuse =>
    let page ← (renderPage draft.layout (articles ++ [[]])).mapError .page
    if articles.length < page.articleCount then throw (.misuse misuse) else pure page

/-- The page of a draft with the parts of a value as articles, which are selected and sorted. -/
def render (draft : Draft) (items : Value) : Except DraftError Page := do
  let template ← draft.layout.template.mapError .page
  match ← (Skeleton.read template).mapError .page with
  | .plain _ => (renderPage draft.layout []).mapError .page
  | .repeating _ block _ =>
    let (articles, mistake) := articlesOf (← items.parts.mapError .misuse)
    draft.renderRepeating block articles mistake

/-- The page of a draft with the parts of a value as articles, sorted by what an order says unless it is nothing. -/
def renderOrdered (draft : Draft) (items order : Value) : Except DraftError Page :=
  match order with
  | .null => draft.render items
  | order => do
    let spec ← (SortSpec.ofValue order).mapError .page
    draft.render (.list (← (sortBy spec items).mapError .misuse))

end Draft

end FrontPage
