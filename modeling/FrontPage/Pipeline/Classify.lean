import FrontPage.Pipeline.Sources

/-!
# Classifying articles

`classifyArticle` brings the roster up to date with an article that was created, updated or deleted. Whatever fails on
the way is counted as an error and goes no further, apart from an article that is no record.
-/

namespace FrontPage.Pipeline

open FrontPage.Action

/-- An article as a record; a value that does not hold is one without fields. -/
def articleOf (item : Value) : Action Record :=
  match item with
  | .record fields => pure fields
  | item => if item.holds then throw .notARecord else pure []

/-- The layouts that a classification goes by, once there is a table to write to. -/
def prepare : Action LayoutConfig := do
  let config ← activeLayouts
  ensureTable
  pure config

/-- The flags of an article under the active layouts, with what was counted on the way. -/
def resolveArticle (item : Value) : Action FlagSet := do
  let config ← inside 1 prepare
  match item with
  | .record fields =>
    if !(candidates config fields).isEmpty && !Record.has fields idColumn then throw (.missingField idColumn)
    let resolution := resolveFlags config (← get).roster fields (Record.get fields idColumn)
    record resolution.trace
    pure resolution.flags
  | _ => throw .notARecord

/-- What a new row would hold of an article with given flags. -/
def newRowValues (item flags date : Value) : Action Record := do
  match item with
  | .record fields =>
    let values ← ofExcept .truncation (rosterValues fields (Record.get fields idColumn) [] date)
    pure (Record.merge values (← ofExcept .misuse flags.asFields))
  | _ => throw .notARecord

/-- Takes the roster that a classification left, and counts what came up. -/
def finish (operation : Operation) (classified : Classified) : Action (Option FlagSet) := do
  modify fun pipeline => { pipeline with roster := classified.roster }
  record (classified.trace ++ [.classification operation.name classified.outcome])
  pure classified.flags

/-- Classifies an article after an operation on it; an operation that is none of the three does nothing. -/
def classifyArticle (item : Value) (operation : String) : Action (Option FlagSet) := do
  let fields ← articleOf item
  match Operation.ofName? operation with
  | none => pure none
  | some operation =>
    if operation = .delete || !(Record.get fields idColumn).holds then
      let pipeline ← get
      finish operation (classify .empty pipeline.roster fields operation pipeline.now)
    else
      match ← attempt (inside 2 prepare) with
      | .error _ =>
        record [.classification operation.name .error]
        pure none
      | .ok config =>
        let pipeline ← get
        finish operation (classify config pipeline.roster fields operation pipeline.now)

end FrontPage.Pipeline
