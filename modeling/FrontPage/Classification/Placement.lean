import FrontPage.Classification.Admission

/-!
# Placing articles in the roster

An article with a flag has a row in the roster, one without has none. `rosterValues` is what a new row holds of a
record; an article that has its row already gets its flags and the date of its last update written, and nothing else.
`classify` resolves the flags of an article and places it; a failure on the way ends the classification, and the roster
stays as it was.
-/

namespace FrontPage

/-- Why an article cannot be placed. -/
inductive PlacementError where
  | statement (cause : StatementError)
  | noWholeNumber (cause : Number.TruncationError)
  deriving DecidableEq, Repr

/-- The whole part of the number that a value stands for, if it stands for one. -/
def Value.whole? (value : Value) : Except Number.TruncationError (Option Int) :=
  match value.toNumber? with
  | some n => n.truncate.map some
  | none => .ok none

/-- The fields whose whole parts a new row holds. -/
def wholeFields : List Column :=
  [.issueDate, .startingDate, .endingDate, .subMenuId, .createdBy, .creationDate, .lastUpdatedBy]

/-- The fields whose values a new row holds, those that do not hold as empty texts. -/
def textFields : List Column := [.menu, .heading, .body, .picture, .secondPicture, .byLine, .uniqueFile]

/-- What a new row holds of a record. -/
def rosterValues (record : Record) (id : Value) (flags : Record) (date : Value) :
    Except Number.TruncationError Record := do
  let wholes ← wholeFields.mapM fun column => do
    let whole ← (Record.get record column.name).whole?
    pure (column.name, (whole.map Value.int).getD .null)
  let texts := textFields.map fun column => (column.name, (Record.get record column.name).orElse (.text ""))
  let values : Record := (idColumn, id) :: (wholes ++ texts)
  let values := Record.set values "active" ((Record.get record "active").orElse (.text "Yes"))
  let values := Record.set values "creation_date" ((Record.get values "creation_date").orElse date)
  let values := Record.set values "last_update_date" date
  pure (Record.merge values flags)

/-- The date of an article's last update: its record's, unless that is zero or missing. -/
def lastUpdate (record : Record) (now : Value) : Except Number.TruncationError Value := do
  let whole ← (Record.get record "last_update_date").whole?
  match whole with
  | some n => pure (if n = 0 then now else .int n)
  | none => pure now

/-- A roster after some statements, if none failed, and what came up. -/
structure Placement (α : Type) where
  result : Except PlacementError α
  trace : List Counter

/-- Writes the flags of an article that has a row, and a new row for one that has none. -/
def upsert (roster : Roster) (record : Record) (id : Value) (flags : FlagSet) (now : Value) : Placement Roster :=
  match lastUpdate record now with
  | .error cause => ⟨.error (.noWholeNumber cause), []⟩
  | .ok date =>
    match roster.contains id with
    | .error cause => ⟨.error (.statement cause), []⟩
    | .ok true =>
      let updated := roster.updateFlags id flags.record date
      ⟨(updated.map (·.2)).mapError .statement, Query.updateFlags.trace updated⟩
    | .ok false =>
      match rosterValues record id flags.record date with
      | .error cause => ⟨.error (.noWholeNumber cause), []⟩
      | .ok values =>
        let inserted := roster.insert values
        ⟨inserted.mapError .statement, Query.insert.trace inserted⟩

/-- Removes the row of an article. -/
def remove (roster : Roster) (id : Value) : Placement Roster :=
  let deleted := roster.delete id
  ⟨(deleted.map (·.2)).mapError .statement, Query.delete.trace deleted⟩

/-- Places an article whose flags are resolved: in a row if it has a flag, and nowhere otherwise. -/
def place (roster : Roster) (record : Record) (id : Value) (flags : FlagSet) (now : Value) : Placement Roster :=
  if flags.any then upsert roster record id flags now else remove roster id

/-- The operations on articles that are classified. -/
inductive Operation where
  | create
  | update
  | delete
  deriving DecidableEq, Repr

/-- The name of an operation. -/
def Operation.name : Operation → String
  | .create => "create"
  | .update => "update"
  | .delete => "delete"

/-- The operation of a name. -/
def Operation.ofName? (name : String) : Option Operation :=
  [.create, .update, .delete].find? fun operation => operation.name == name

/-- What a classification leaves: the roster, the flags if they were resolved, and what came up. -/
structure Classified where
  roster : Roster
  flags : Option FlagSet
  outcome : ClassificationOutcome
  trace : List Counter

/-- A placement that ends a classification; one that failed leaves the roster as it was and no flags. -/
def Placement.classified (roster : Roster) (flags : Option FlagSet) (outcome : ClassificationOutcome)
    (placement : Placement Roster) : Classified :=
  match placement.result with
  | .ok placed => ⟨placed, flags, outcome, placement.trace⟩
  | .error _ => ⟨roster, none, .error, placement.trace⟩

/-- Classifies an article that is created or updated under a configuration. -/
def classifySaved (config : LayoutConfig) (roster : Roster) (record : Record) (id : Value) (now : Value) : Classified :=
  let resolution := resolveFlags config roster record id
  let outcome := if resolution.flags.any then .upserted else .deleted
  let classified := (place roster record id resolution.flags now).classified roster (some resolution.flags) outcome
  { classified with trace := resolution.trace ++ classified.trace }

/-- Classifies an article that is deleted. -/
def classifyDeleted (roster : Roster) (id : Value) : Classified := (remove roster id).classified roster none .deleted

/-- Classifies an article under a configuration; without an identifier that holds, it is skipped. -/
def classify (config : LayoutConfig) (roster : Roster) (record : Record) (operation : Operation) (now : Value) :
    Classified :=
  let id := Record.get record idColumn
  if id.holds then
    match operation with
    | .delete => classifyDeleted roster id
    | _ => classifySaved config roster record id now
  else ⟨roster, none, .skipped, []⟩

end FrontPage
