import FrontPage.Pipeline.State

/-!
# What classification and rendering read

The active layouts come from the layout document and the articles from the roster, each through the cache. A layout
document that cannot be loaded gives the configuration without layouts, which is not cached; articles that cannot be
scanned are a failure.
-/

namespace FrontPage.Pipeline

open FrontPage.Action

/-- The configuration of the layout document; none if the document cannot be loaded. -/
def loadLayouts : Action (Option LayoutConfig) := do
  match ← attempt (inside 1 (document? (← get).environment.layoutsKey)) with
  | .ok (some document) => pure (LayoutConfig.ofDocument document).toOption
  | _ => pure none

/-- The active layouts, through the cache. -/
def activeLayouts : Action LayoutConfig := do
  match ← cached? layoutsEntry with
  | some (.layouts config) => pure config
  | _ =>
    match ← loadLayouts with
    | none => pure .empty
    | some config =>
      cacheAs layoutsEntry (.layouts config) (← get).environment.layoutsTtl
      pure config

/-- The active articles of the roster with their groups, through the cache. -/
def classifiedItems : Action ItemSet := do
  match ← cached? itemsEntry with
  | some (.items items) => pure items
  | _ =>
    match ← attempt (ask .scan Roster.scan) with
    | .error (.statement cause) => throw (.rosterUnreadable (Roster.scanMessage cause))
    | .error failure => throw (.rosterUnreadable failure.message)
    | .ok articles =>
      let items := ItemSet.ofArticles articles
      cacheAs itemsEntry (.items items) (← get).environment.itemsTtl
      pure items

/-- Forgets the cached articles; gives whether there were any. -/
def forgetItems : Action Bool := do
  let pipeline ← get
  let (existed, cache) := pipeline.cache.invalidate itemsEntry
  set { pipeline with cache }
  pure existed

/-- Looks for the table and makes it if there is none. -/
def probeTable : Action Unit := do
  if let some message := (← get).outages.tableProbe then throw (.outage message)
  modify fun pipeline => { pipeline with roster := pipeline.roster.withTable }
  cacheAs tableEntry .tableExists (← get).environment.tableTtl

/-- Makes sure that there is a table, looking for it once in a while; a failure has no consequence. -/
def ensureTable : Action Unit := do
  match ← cached? tableEntry with
  | some _ => pure ()
  | none => discard (attempt probeTable)

end FrontPage.Pipeline
