import FrontPage.Artifact
import FrontPage.Cache
import FrontPage.Classification.Placement
import FrontPage.ContentType
import FrontPage.ItemSet
import FrontPage.Settings
import FrontPage.Store.Objects
import FrontPage.Template.Page

/-!
# The state of the pipeline

A `Pipeline` is everything that the handling of articles and layouts reads and changes: the object store, the roster,
the cache with its clock, the time of day, the metrics, and what is out of order at the moment. An `Action` runs on it
and gives a result or fails; what it changed before it failed stays changed. There is only so much room for nested
steps of work, and `Action.inside` says how many steps an action is inside of.
-/

namespace FrontPage

/-- Why an action fails. -/
inductive Failure where
  /-- The articles cannot be read from the roster. -/
  | rosterUnreadable (cause : String)
  /-- The store refuses an artifact. -/
  | artifactRefused (cause : String)
  | page (cause : PageError)
  | fileName (cause : FileNameError)
  | duration (cause : DurationError)
  | statement (cause : StatementError)
  | store (cause : StoreError)
  | truncation (cause : Number.TruncationError)
  | settings (cause : SettingsError)
  /-- Fields are asked of a value that is no record. -/
  | notARecord
  /-- The first letters of reserved layouts are no text. -/
  | reservedStartNotText
  | missingField (name : String)
  | wrongArguments
  /-- An article is asked for in a way that names no article. -/
  | notAnIdentifier
  | misuse (cause : Misuse)
  /-- A document is too deep to be read. -/
  | documentTooDeep
  /-- An operation that is out of order. -/
  | outage (message : String)

/-- What the cache holds. -/
inductive Cached where
  | layouts (config : LayoutConfig)
  | items (items : ItemSet)
  | tableExists

/-- The name under which layouts are cached. -/
def layoutsEntry : String := "layout_config"

/-- The name under which articles are cached. -/
def itemsEntry : String := "classified_items"

/-- The name under which the existence of the table is cached. -/
def tableEntry : String := "table_exists"

/-- The names under which the pipeline caches. -/
def pipelineEntries : List String := [layoutsEntry, itemsEntry, tableEntry]

/-- What is out of order besides statements on the roster, with what is reported. -/
structure Outages where
  /-- Putting objects under some keys, or under all. -/
  put : Option (String × Option (List Value)) := none
  /-- Reading documents. -/
  document : Option String := none
  /-- Looking for the table. -/
  tableProbe : Option String := none
  /-- Resolving menus. -/
  menu : Option String := none

/-- The clock of a cache before any time has passed. -/
def clockStart : Number := .int 1000

/-- The state that the handling of articles and layouts reads and changes. -/
structure Pipeline where
  environment : Environment
  store : ObjectStore
  roster : Roster := {}
  cache : Cache String Cached := {}
  /-- The clock of the cache. -/
  time : Number := clockStart
  /-- The time of day, usually a number of milliseconds. -/
  now : Value
  metrics : Metrics := {}
  outages : Outages := {}

/-- Runs on the pipeline and gives a result or fails. -/
abbrev Action (α : Type) := ExceptT Failure (StateM Pipeline) α

namespace Action

variable {α : Type}

/-- The result of an action or why it failed; does not fail itself. -/
def attempt (action : Action α) : Action (Except Failure α) := fun pipeline =>
  let (result, pipeline) := action.run pipeline
  (.ok result, pipeline)

/-- Fails for a given cause unless there is a result. -/
def ofExcept {ε : Type} (cause : ε → Failure) : Except ε α → Action α
  | .ok a => pure a
  | .error e => throw (cause e)

/-- Counts what came up. -/
def record (counters : List Counter) : Action Unit :=
  modify fun pipeline => { pipeline with metrics := pipeline.metrics.recordAll counters }

/-- Runs a statement that leaves the roster as it is, and counts it. -/
def ask (query : Query) (statement : Roster → Except StatementError α) : Action α := do
  let result := statement (← get).roster
  record (query.trace result)
  ofExcept .statement result

/-- Runs a statement that changes the roster, and counts it. -/
def change (query : Query) (statement : Roster → Except StatementError (α × Roster)) : Action α := do
  let result := statement (← get).roster
  record (query.trace result)
  let (answer, roster) ← ofExcept .statement result
  modify fun pipeline => { pipeline with roster }
  pure answer

/-- Runs an action where so many steps of work may be nested. -/
def withRoom (room : Nat) (action : Action α) : Action α := fun pipeline =>
  let (result, after) := action.run { pipeline with store := { pipeline.store with room } }
  (result, { after with store := { after.store with room := pipeline.store.room } })

/-- Runs an action inside so many steps of work. -/
def inside (steps : Nat) (action : Action α) : Action α := do
  withRoom ((← get).store.room - steps) action

/-- The live entry of the cache under a name; the request is counted. -/
def cached? (name : String) : Action (Option Cached) := do
  let pipeline ← get
  let (found, cache) := pipeline.cache.get name pipeline.time
  set { pipeline with cache }
  record [.cacheRequest name found.isSome]
  pure found

/-- Caches a value under a name. -/
def cacheAs (name : String) (value : Cached) (ttl : Value) : Action Unit := do
  let pipeline ← get
  let cache ← ofExcept .duration (pipeline.cache.set name value ttl pipeline.time)
  set { pipeline with cache }

/-- Removes everything that the pipeline caches, and gives what was there. -/
def clearCaches : Action (List (String × Bool)) := do
  let pipeline ← get
  let (cleared, cache) := pipeline.cache.invalidateAll pipelineEntries
  set { pipeline with cache }
  pure cleared

/-- Puts an object into the store; a type that cannot be noted is none. -/
def putObject (key : Value) (content : Content) (type : Option Value) : Action Unit := do
  let pipeline ← get
  let outage :=
    pipeline.outages.put.bind fun (message, keys) =>
      if keys.all fun keys => keys.any key.equals then some message else none
  if let some message := outage then throw (.store (.outage message))
  let (result, store) := pipeline.store.put (← ofExcept .store (ObjectStore.keyText key)) content type
  set { pipeline with store }
  ofExcept .store result

/-- The document under a key of the store. -/
def document? (key : Value) : Action (Option Value) := do
  let pipeline ← get
  if let some message := pipeline.outages.document then throw (.store (.outage message))
  ofExcept .store (ObjectStore.keyText key >>= pipeline.store.getJson?)

end Action

/-- The text that reports why an action fails, where an answer shows it. -/
def Failure.message : Failure → String
  | rosterUnreadable cause => "Could not read articles_groups: " ++ cause
  | artifactRefused cause => cause
  | page cause => cause.message
  | statement cause => cause.message
  | store cause => cause.message
  | outage message => message
  | _ => ""

end FrontPage
