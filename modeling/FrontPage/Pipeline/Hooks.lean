import FrontPage.Menu
import FrontPage.Pipeline.Classify
import FrontPage.Pipeline.Render

/-!
# Hooks of the record store

The record store calls a hook before and after it creates, updates or deletes an article. A hook hands the article back:
the hooks before a creation or update resolve its menu, the hooks after one classify it and render the layouts again.
Failures on the way have no consequence for the article. Modules other than the articles have no hooks, and get their
record back as it is.
-/

namespace FrontPage

/-- The module whose records have hooks. -/
def hookedModule : String := "articles"

/-- The hooks of a module. -/
inductive Hook where
  | beforeCreate
  | afterCreate
  | beforeUpdate
  | afterUpdate
  | beforeDelete
  | afterDelete
  deriving DecidableEq, Repr

namespace Hook

/-- The name of a hook. -/
def name : Hook → String
  | beforeCreate => "before_create"
  | afterCreate => "after_create"
  | beforeUpdate => "before_update"
  | afterUpdate => "after_update"
  | beforeDelete => "before_delete"
  | afterDelete => "after_delete"

/-- All hooks. -/
def all : List Hook := [beforeCreate, afterCreate, beforeUpdate, afterUpdate, beforeDelete, afterDelete]

/-- The hook of a name. -/
def ofName? (name : String) : Option Hook := all.find? fun hook => hook.name == name

/-- The hook of a module and a name, if there is one. The module must be a value that can be looked up. -/
def at? (moduleName hookName : Value) : Except Misuse (Option Hook) :=
  match moduleName, hookName with
  | .text moduleName, .text hookName => .ok (if moduleName = hookedModule then ofName? hookName else none)
  | moduleName, _ => if moduleName.isName then .ok none else .error .wrongKind

/-- The hook is given the record as it was before besides the record. -/
def takesPrevious : Hook → Bool
  | beforeUpdate | afterUpdate => true
  | _ => false

end Hook

/-- What a hook is given to work in. -/
inductive Workplace where
  /-- The pipeline. -/
  | pipeline
  /-- Nothing, because the pipeline cannot be set up. -/
  | missing
  /-- A value that is no pipeline: there are no layouts in it, but the roster is where it was. -/
  | foreign
  deriving DecidableEq, Repr

/-- The workplace when a hook is handed a value to work in besides its own. -/
def Workplace.orGiven (workplace : Workplace) (given : Value) : Workplace :=
  if given.holds then .foreign else workplace

namespace Pipeline

open FrontPage.Action

/-- Pages follow a classification, unless the settings say otherwise. -/
def rendersAfterwards : Action Bool := do
  let rendering := (← get).environment.rendering
  match rendering.orElse (.record []) with
  | .record section_ => pure (((Record.get? section_ "after_classification").map Value.holds).getD true)
  | _ => throw .notARecord

/-- Renders the layouts after a classification; a failure to do so has no consequence. -/
def renderAfterwards : Action Unit := do
  if ← rendersAfterwards then discard (attempt (inside 1 renderReport))

/-- The article with its menu resolved. -/
def resolveArticleMenu (article : Record) : Action Record := do
  let pipeline ← get
  if let some message := pipeline.outages.menu then throw (.outage message)
  match menuNameOf? article with
  | none => pure article
  | some _ =>
    match ← attempt (inside 1 (document? pipeline.environment.menusKey)) with
    | .ok document => pure (resolveMenu article document)
    | .error _ => pure article

/-- A record on which a hook can work. -/
def asRecord : Value → Action Record
  | .record fields => pure fields
  | _ => throw .notARecord

/-- The record with the fields that an update changes. -/
def updated (previous changes : Value) : Action Record := do
  let changes ← asRecord changes
  match previous.orElse (.record []) with
  | .record fields => pure (Record.merge fields changes)
  | _ => throw .wrongArguments

/-- Does some work that may fail, and hands the record back in any case. -/
def handBack (data : Value) (work : Action Value) : Action Value := do
  match ← attempt work with
  | .ok value => pure value
  | .error _ => pure data

/-- Classifies an article and renders the layouts, as far as the workplace allows it. -/
def classifyAndRender (workplace : Workplace) (article : Value) (operation : Operation) : Action Unit := do
  match workplace with
  | .pipeline =>
    discard (classifyArticle article operation.name)
    renderAfterwards
  | .missing => pure ()
  | .foreign =>
    let fields ← articleOf article
    let outcome := if (Record.get fields idColumn).holds then .error else .skipped
    record [.classification operation.name outcome]

/-- Runs a hook on a record and the record as it was before. -/
def runHook (hook : Hook) (data previous : Value) (workplace : Workplace) : Action Value := inside 2 do
  match hook with
  | .beforeCreate | .beforeUpdate =>
    if workplace = .pipeline then handBack data do pure (.record (← resolveArticleMenu (← asRecord data)))
    else pure data
  | .beforeDelete => pure data
  | .afterCreate =>
    let _ ← asRecord data
    handBack data do
      classifyAndRender workplace data .create
      pure data
  | .afterUpdate =>
    let _ ← asRecord data
    handBack data do
      classifyAndRender workplace (.record (← updated previous data)) .update
      pure data
  | .afterDelete =>
    let _ ← asRecord data
    handBack data do
      unless workplace = .missing do discard (classifyArticle data Operation.delete.name)
      pure data

/-- Runs the hook of a name in a module on its arguments; what is no hook hands the first argument back. -/
def runNamedHook (moduleName hookName : Value) (arguments : List Value) (workplace : Workplace) : Action Value := do
  match ← ofExcept .misuse (Hook.at? moduleName hookName), arguments with
  | none, [] => pure .null
  | none, data :: _ => pure data
  | some hook, [data] => if hook.takesPrevious then throw .wrongArguments else runHook hook data .null workplace
  | some hook, [data, second] =>
    if hook.takesPrevious then runHook hook data second workplace
    else runHook hook data .null (workplace.orGiven second)
  | some hook, [data, previous, given] =>
    if hook.takesPrevious then runHook hook data previous (workplace.orGiven given) else throw .wrongArguments
  | some _, _ => throw .wrongArguments

end Pipeline

end FrontPage
