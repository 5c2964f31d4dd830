import FrontPage.Pipeline.State

/-!
# Statements called with any arguments

Statements on the roster can be called with arguments that are any values (`callStatement`). A call with the wrong
number or kinds of arguments fails like a statement that was run, and is counted like one; a statement that is out of
order fails whatever it is called with, and is not counted.
-/

namespace FrontPage

/-- Why a value does not name an article. -/
inductive IdentityError where
  | misuse (cause : Misuse)
  /-- It has other parts than one identifier. -/
  | wrongParts
  deriving DecidableEq, Repr

/-- The identifier by which an article is looked for: a value, or what is alone in a list or in a record of an
identifier. -/
def identityOf (value : Value) : Except IdentityError Value :=
  let alone (id : Value) : Except IdentityError Value := if id.isName then .ok id else .error (.misuse .wrongKind)
  match value with
  | .list [id] => alone id
  | .list _ => .error .wrongParts
  | .record [(name, id)] => if name = idColumn then alone id else .error .wrongParts
  | .record _ => .error .wrongParts
  | value => .ok value

/-- The names of flags that a value consists of; the first part that is none is a mistake. -/
def flagNames (value : Value) : Except Failure (List String) := do
  let names := (← value.parts.mapError .misuse).map Value.toText
  match names.find? fun name => (Flag.ofColumn? name).isNone with
  | some name => throw (.statement (.unknownFlag name))
  | none => pure names

namespace Pipeline

open FrontPage.Action

variable {α : Type}

/-- Fails like a statement that was run. -/
def refuse (query : Query) (failure : Failure) : Action α := do
  record (query.operation?.map fun operation => Counter.query operation false).toList
  throw failure

/-- An argument of a statement, or the failure of the statement. -/
def argument (query : Query) : Except Failure α → Action α
  | .ok value => pure value
  | .error failure => refuse query failure

/-- Looks for an article by any value. -/
def callFind (id : Value) : Action Value := do
  let id ←
    match identityOf id with
    | .ok id => pure id
    | .error (.misuse cause) => refuse .find (.misuse cause)
    | .error .wrongParts => refuse .find .notAnIdentifier
  pure (((← ask .find (·.find? id)).map Value.record).getD .null)

/-- Writes flags, which must be a record. -/
def callUpdate (id flags date : Value) : Action Value := do
  match flags with
  | .record flags => (fun rows : Nat => Value.int rows) <$> change .updateFlags (·.updateFlags id flags date)
  | flags => do
    let _ ← argument .updateFlags (flagNames flags)
    refuse .updateFlags (.misuse .wrongKind)

/-- Counts the holders of flags; a value that does not hold names none. -/
def callCounts (names id : Value) : Action Value := do
  let columns ← if names.holds then argument .countFlags (flagNames names) else pure []
  let counts ← ask .countFlags (·.countColumns columns id)
  pure (.record (counts.map fun (flag, count) => (flag.column, .int count)))

/-- Runs a statement that is in order. -/
def runStatement (query : Query) (arguments : List Value) : Action Value :=
  match query, arguments with
  | .find, [id] => callFind id
  | .contains, [id] => Value.bool <$> ask .contains (·.contains id)
  | .scan, [] => (fun rows => Value.list (rows.map .record)) <$> ask .scan Roster.scan
  | .insert, [.record values] =>
    (fun () => Value.null) <$> change .insert fun roster => (roster.insert values).map fun roster => ((), roster)
  | .updateFlags, [id, flags, date] => callUpdate id flags date
  | .delete, [id] => Value.bool <$> change .delete (·.delete id)
  | .countFlags, [names, id] => callCounts names id
  | .countFlag flag, [name, id] =>
    (fun count : Nat => Value.int count) <$> ask (.countFlag flag) (·.countColumn name.toText id)
  | .count, [] => (fun count : Nat => Value.int count) <$> ask .count Roster.count
  | query, _ => refuse query (.misuse .wrongKind)

/-- Calls a statement with the parts of a value as arguments. -/
def callStatement (query : Query) (arguments : Value) : Action Value := do
  let arguments ← ofExcept .misuse arguments.parts
  if let some message := (← get).roster.outage query then throw (.statement (.outage message))
  runStatement query arguments

end Pipeline

end FrontPage
