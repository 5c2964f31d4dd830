import FrontPage.Pipeline.Sources

/-!
# Rendering and publishing layouts

`renderLayout` makes the page of one layout: reserved layouts and layouts without a body are skipped, and a page that
cannot be rendered is reported. `renderReport` renders all active layouts with the articles of the roster, writes the
scripts of all of them to the combined file and every page to the file of its own layout, and reports on all of it.
-/

namespace FrontPage

/-- What became of a layout. -/
structure RenderResult where
  layoutName : String
  status : RenderStatus
  file : Option Value := none
  function : Option String := none
  filteredBy : String := "none"
  articleCount : Nat := 0
  error : String := ""

/-- Content for a file. -/
structure Artifact where
  file : Value
  extension : String
  content : String

/-- What became of the layouts of a pass. -/
structure RenderReport where
  results : List RenderResult
  filesWritten : Nat
  articlesCached : Nat

namespace RenderResult

/-- The result as a record. -/
def record (result : RenderResult) : Record :=
  [ ("layout_name", .text result.layoutName),
    ("function", (result.function.map Value.text).getD .null),
    ("file", result.file.getD .null),
    ("filtered_by", .text result.filteredBy),
    ("article_count", .int result.articleCount),
    ("status", .text result.status.name) ]
    ++ if result.error.isEmpty then [] else [("error", .text result.error)]

end RenderResult

namespace RenderReport

/-- The report as a record. No time passes in a pass. -/
def record (report : RenderReport) : Record :=
  [ ("status", .text "success"),
    ("message", .text "Layout files created in 0ms"),
    ("details", .list (report.results.map fun result => .record result.record)),
    ("performance", .record
      [ ("total_time_ms", .int 0),
        ("layouts_processed", .int report.results.length),
        ("files_written", .int report.filesWritten),
        ("articles_cached", .int report.articlesCached) ]) ]

end RenderReport

/-- The page of a layout with its articles selected and sorted. -/
def pageOf (items : ItemSet) (layout : Layout) : Except PageError Page := do
  let spec ← layout.sortSpec
  renderPage layout (sortRecords spec (items.select layout))

/-- The function and the content of a page in a file with an extension. -/
def artifactOf (layout : Layout) (extension : String) (page : Page) : Option String × Artifact :=
  if isScriptExtension extension then
    let function := scriptFunctionName layout.name
    (some function, ⟨layout.file, extension, wrapScript function page.html⟩)
  else (none, ⟨layout.file, extension, page.html⟩)

/-- What becomes of a layout that is skipped. -/
def skipped (layout : Layout) (reason : String) : RenderResult × Option Artifact :=
  ({ layoutName := layout.name, status := .skipped, filteredBy := "skipped (" ++ reason ++ ")" }, none)

/-- What becomes of a layout, and its artifact if it has one. -/
def renderLayout (reservedStart : Value) (items : ItemSet) (layout : Layout) :
    Except Failure (RenderResult × Option Artifact) :=
  match reservedStart with
  | .text start =>
    if layout.isReserved start then .ok (skipped layout (start ++ "*"))
    else if !layout.body.holds then .ok (skipped layout "no body")
    else
      match pageOf items layout with
      | .error cause =>
        .ok ({ layoutName := layout.name, status := .error, file := some layout.file, error := cause.message }, none)
      | .ok page =>
        match extension? layout.file with
        | .error cause => .error (.fileName cause)
        | .ok extension =>
          let (function, artifact) := artifactOf layout extension page
          .ok
            ({ layoutName := layout.name
               status := .added
               file := some layout.file
               function
               filteredBy := if layout.isHighlight then "yes" else "none"
               articleCount := page.articleCount }, some artifact)
  | _ => .error .reservedStartNotText

/-- The content of the combined file, if there are scripts. -/
def combinedScript? (artifacts : List Artifact) : Option String :=
  let scripts := artifacts.filter fun artifact => isScriptExtension artifact.extension
  if scripts.isEmpty then none else some (String.join (scripts.map (·.content)))

/-- The artifacts that have a file of their own. -/
def ownFiles (combinedFile : Value) (artifacts : List Artifact) : List Artifact :=
  artifacts.filter fun artifact => !artifact.file.equals combinedFile

namespace Pipeline

open FrontPage.Action

/-- What becomes of the layouts one after another, each counted. -/
def renderLayouts (items : ItemSet) : List Layout → Action (List (RenderResult × Option Artifact))
  | [] => pure []
  | layout :: rest => do
    let rendered ← ofExcept id (renderLayout (← get).environment.reservedStart items layout)
    record [.layout rendered.1.status]
    let others ← renderLayouts items rest
    pure (rendered :: others)

/-- Writes a file and waits for it; a type that does not hold follows from the file. -/
def publishSync (file : Value) (content : Content) (type : Value) : Action Unit := do
  let type ←
    if type.holds then pure type
    else (fun extension => Value.text (contentTypeOf extension)) <$> ofExcept .fileName (extension? file)
  match ← attempt (inside 1 (putObject file content (some type))) with
  | .ok () => record [.artifactWrite .sync true]
  | .error cause =>
    record [.artifactWrite .sync false]
    throw (.artifactRefused cause.message)

/-- How many steps of work may be nested where work in the background begins. -/
def backgroundSteps : Nat := mostSteps + 1

/-- Writes a file in the background; a failure is only counted. -/
def publishAsync (file : Value) (content : Content) (type : Value) : Action Unit := do
  let type ←
    if type.holds then pure type
    else (fun extension => Value.text (contentTypeOf extension)) <$> ofExcept .fileName (extension? file)
  match ← attempt (withRoom backgroundSteps (putObject file content (some type))) with
  | .ok () => record [.artifactWrite .async true]
  | .error _ => record [.artifactWrite .async false]

/-- Writes the combined file if there are scripts; gives how many files were written. -/
def publishCombined (artifacts : List Artifact) : Action Nat := do
  match combinedScript? artifacts with
  | none => pure 0
  | some script =>
    publishSync (← get).environment.combinedFile (.text script) .null
    pure 1

/-- Renders and publishes all active layouts. -/
def renderReport : Action RenderReport := inside 1 do
  let layouts := (← activeLayouts).active
  let items ← classifiedItems
  let rendered ← renderLayouts items layouts
  let artifacts := rendered.filterMap (·.2)
  let combined ← publishCombined artifacts
  let own := ownFiles (← get).environment.combinedFile artifacts
  own.forM fun artifact =>
    publishAsync artifact.file (.text artifact.content) (.text (contentTypeOf artifact.extension))
  pure ⟨rendered.map (·.1), combined + own.length, items.all.length⟩

end Pipeline

end FrontPage
