import FrontPage.Pipeline.Classify
import FrontPage.Pipeline.Render

/-!
# Classifying an export again

An export is a list of articles, or a record with such a list. `reclassify` classifies each article as an update, or
only resolves its flags in a dry run, renders the layouts once at the end, and tells in a text what it did.
-/

namespace FrontPage

/-- The articles of an export, what is no record left out; none if the export cannot hold articles. -/
def exportedArticles (document : Value) : Option (List Record) :=
  let articles :=
    match document with
    | .record fields => (Record.get fields "data").orElse (.list [])
    | other => other
  match articles with
  | .list items => some (items.filterMap fun item => match item with | .record fields => some fields | _ => none)
  | .text _ => some []
  | .record _ => some []
  | _ => none

/-- The columns of the flags that are held, sorted. -/
def heldColumns (flags : Option FlagSet) : List String :=
  let held := (flags.map fun flags => Flag.all.filter flags.get).getD []
  (held.map Flag.column).mergeSort fun a b => a ≤ b

/-- The line about an article. -/
def articleLine (position total : Nat) (article : Record) (members : List String) : String :=
  "[" ++ toString position ++ "/" ++ toString total ++ "] article " ++ (Record.get article idColumn).toText ++ ": "
    ++ (if members.isEmpty then "no groups" else ", ".intercalate members)

namespace Pipeline

open FrontPage.Action

/-- The flags of an article, resolved only or also placed. -/
def reclassifyArticle (dryRun : Bool) (article : Record) : Action (Option FlagSet) := do
  if dryRun then
    if (Record.get article idColumn).holds then some <$> resolveArticle (.record article) else pure none
  else classifyArticle (.record article) "update"

/-- The flags of the articles from a position on, each with its line. -/
def reclassifyFrom (dryRun : Bool) (total position : Nat) : List Record → Action (List (String × Bool))
  | [] => pure []
  | article :: rest => do
    let members := heldColumns (← reclassifyArticle dryRun article)
    let others ← reclassifyFrom dryRun total (position + 1) rest
    pure ((articleLine position total article members, !members.isEmpty) :: others)

/-- Renders the layouts afresh, and tells about it in a line. -/
def rerender : Action String := do
  discard clearCaches
  let report ← renderReport
  pure ("Rendered " ++ toString report.results.length ++ " layouts, wrote " ++ toString report.filesWritten
    ++ " files in 0ms")

/-- Classifies the articles of an export named so, and gives the lines that tell about it. -/
def reclassify (source : String) (document : Value) (render dryRun : Bool) : Action (List String) := do
  match exportedArticles document with
  | none => throw .wrongArguments
  | some articles =>
    let total := toString articles.length
    let classified ← reclassifyFrom dryRun articles.length 1 articles
    let placed := toString (classified.filter (·.2)).length
    let rendered ← if render && !dryRun then (fun line => [line]) <$> rerender else pure []
    pure (("Found " ++ total ++ " articles in " ++ source) :: classified.map (·.1)
      ++ ((placed ++ "/" ++ total ++ " articles belong to at least one group") :: rendered))

end Pipeline

end FrontPage
