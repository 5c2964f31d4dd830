import FrontPage.Metrics
import FrontPage.Roster.Table

/-!
# Statements on the roster

The roster is a table, which may be missing, together with the statements that are out of order. `Roster.contains`,
`find?`, `insert`, `updateFlags`, `delete`, `countFlags`, `countFlag`, `scan` and `count` are its statements: each is
one atomic step that either gives a result or fails and changes nothing. An article is asked for with any value;
`IdTerm.ofValue` says which identifiers a value means.
-/

namespace FrontPage

/-- The kinds of statements on the roster. -/
inductive Query where
  | contains
  | find
  | insert
  | updateFlags
  | delete
  | countFlags
  | countFlag (flag : Flag)
  | scan
  | count
  deriving DecidableEq, Repr

/-- The name under which statements of a kind are counted, if they are. -/
def Query.operation? : Query → Option String
  | contains | find | count => none
  | insert => some "insert"
  | updateFlags => some "update"
  | delete => some "delete"
  | countFlags => some "batch_count"
  | countFlag _ => some "count"
  | scan => some "scan"

/-- Why a statement fails. -/
inductive StatementError where
  /-- The statement is out of order. -/
  | outage (message : String)
  | noTable
  | refused (cause : Refusal)
  /-- The identifier of a new row is no integer. -/
  | invalidId
  | duplicateId
  | unknownColumn (name : String)
  | unknownFlag (name : String)
  /-- Values cannot be handed over under the name. -/
  | reservedName (name : String)
  /-- The table has something under the name that takes no values. -/
  | notAColumn (name : String)
  /-- The column is asked for more than once, so that its name says not which answer is meant. -/
  | repeatedColumn (name : String)
  deriving DecidableEq, Repr

/-- The text that reports why a statement fails. -/
def StatementError.message : StatementError → String
  | .outage message => message
  | .noTable => "no such table: articles_groups"
  | .refused .notACell => "a list or a record cannot be in a table"
  | .refused .integerTooLarge => "the integer has more than 64 bits"
  | .invalidId => "datatype mismatch"
  | .duplicateId => "UNIQUE constraint failed: articles_groups.article_id"
  | .unknownColumn name => "Unconsumed column names: " ++ name
  | .unknownFlag name => "Unknown flag column: " ++ name
  | .reservedName name => "got multiple values for argument '" ++ name ++ "'"
  | .notAColumn name => "'" ++ name ++ "' of the table takes no values"
  | .repeatedColumn name => "Ambiguous column name '" ++ name ++ "_count' in result set column descriptions"

/-- What a statement that was run adds to the metrics; one that is out of order is not run. -/
def Query.trace {α : Type} (query : Query) : Except StatementError α → List Counter
  | .error (.outage _) => []
  | .error _ => (query.operation?.map fun operation => Counter.query operation false).toList
  | .ok _ => (query.operation?.map fun operation => Counter.query operation true).toList

/-- What a condition says of a row. -/
inductive Verdict where
  | holds
  | fails
  /-- The condition asks for a cell that holds nothing. -/
  | unknown
  deriving DecidableEq, Repr

namespace Verdict

/-- What two conditions say together: one that fails decides, and else one that is unknown. -/
def and : Verdict → Verdict → Verdict
  | fails, _ => fails
  | _, fails => fails
  | holds, holds => holds
  | _, _ => unknown

/-- One where the condition holds, and zero elsewhere. -/
def toNat : Verdict → Nat
  | holds => 1
  | _ => 0

end Verdict

/-- Whether a row holds a flag. -/
def Row.holdsFlag (row : Row) (flag : Flag) : Verdict :=
  match row.get (.flag flag) with
  | .null => .unknown
  | cell => if cell = .text (Flag.word true) then .holds else .fails

/-- The identifiers that a statement speaks of. -/
inductive IdTerm where
  /-- No identifier at all, from which all identifiers differ. -/
  | none
  /-- What neither equals an identifier nor differs from one. -/
  | unknown
  | exactly (id : Int)
  /-- Something that no identifier equals and all differ from. -/
  | other
  deriving DecidableEq, Repr

namespace IdTerm

/-- What a value means where an identifier is asked for. -/
def ofValue : Value → IdTerm
  | .null => .none
  | value =>
    match (Cell.ofValue value).asInteger with
    | .null => .unknown
    | .int id => .exactly id
    | _ => .other

/-- Whether an identifier is another than what is meant. -/
def differsFrom : IdTerm → Int → Verdict
  | .none, _ => .holds
  | .unknown, _ => .unknown
  | .exactly i, id => if id = i then .fails else .holds
  | .other, _ => .holds

end IdTerm

/-- The table of the roster, if there is one, and the statements that are out of order with what they report. -/
structure Roster where
  table : Option Table := some .empty
  outage : Query → Option String := fun _ => none

namespace Roster

/-- The table, if the statement is in order and there is one. -/
def access (roster : Roster) (query : Query) : Except StatementError Table :=
  match roster.outage query, roster.table with
  | some message, _ => .error (.outage message)
  | none, some table => .ok table
  | none, none => .error .noTable

/-- Fails if a value cannot be in a table. -/
def bind (value : Value) : Except StatementError Unit :=
  match refusal? value with
  | some cause => .error (.refused cause)
  | none => .ok ()

/-- The identifiers that a value means, if the value can be in a table. -/
def idTerm (id : Value) : Except StatementError IdTerm := do
  bind id
  pure (.ofValue id)

/-- The row that a term means. -/
def rowOf? (table : Table) : IdTerm → Option (Int × Row)
  | .exactly id => (table.find? id).map fun row => (id, row)
  | _ => none

/-- The article has a row. -/
def contains (roster : Roster) (id : Value) : Except StatementError Bool := do
  let table ← roster.access .contains
  let term ← idTerm id
  pure (rowOf? table term).isSome

/-- The row of an article as a record. -/
def find? (roster : Roster) (id : Value) : Except StatementError (Option Record) := do
  let table ← roster.access .find
  let term ← idTerm id
  pure ((rowOf? table term).map fun (id, row) => row.record id)

/-- The name is that of a column. -/
def isColumn (name : String) : Bool := name == idColumn || Column.all.any fun column => column.name == name

/-- The value of a column in new values; an article is active unless they say otherwise. -/
def valueOf (values : Record) (column : Column) : Value :=
  (Record.get? values column.name).getD (if column = .active then .text "Yes" else .null)

/-- The row of new values. -/
def newRow (values : Record) : Row := Slots.ofFn fun column => column.cell (valueOf values column)

/-- The identifier of a new row: the one given, or the next free one. -/
def newId (table : Table) (values : Record) : Except StatementError Int :=
  match (Cell.ofValue (Record.get values idColumn)).asInteger with
  | .int id => .ok id
  | .null => .ok ((table.entries.getLast?.map fun e => e.1 + 1).getD 1)
  | _ => .error .invalidId

/-- The names under which no values can be handed over to a statement. -/
def reservedNames : List String := ["self", "fn"]

/-- The names under which a table has something else than a column. -/
def tableNames : List String :=
  ["metadata", "mro", "query", "query_class", "registry", "_sa_class_manager", "_sa_registry", "__abstract__",
   "__fsa__", "__mapper__", "__table__", "__table_cls__", "__tablename__", "__weakref__", "__annotations__",
   "__base__", "__bases__", "__basicsize__", "__call__", "__class__", "__delattr__", "__dict__", "__dictoffset__",
   "__dir__", "__doc__", "__eq__", "__flags__", "__format__", "__ge__", "__getattribute__", "__getstate__",
   "__gt__", "__hash__", "__init__", "__init_subclass__", "__instancecheck__", "__itemsize__", "__le__", "__lt__",
   "__module__", "__mro__", "__name__", "__ne__", "__new__", "__or__", "__prepare__", "__qualname__", "__reduce__",
   "__reduce_ex__", "__repr__", "__ror__", "__setattr__", "__sizeof__", "__str__", "__subclasscheck__",
   "__subclasses__", "__subclasshook__", "__text_signature__", "__weakrefoffset__"]

/-- A new row from values by the names of their columns. -/
def insert (roster : Roster) (values : Record) : Except StatementError Roster := do
  if let some message := roster.outage .insert then throw (.outage message)
  if let some (name, _) := values.find? fun field => reservedNames.contains field.1 then throw (.reservedName name)
  if let some (name, _) := values.find? fun field => tableNames.contains field.1 then throw (.notAColumn name)
  if let some (name, _) := values.find? fun field => !isColumn field.1 then throw (.unknownColumn name)
  let table ← roster.access .insert
  bind (Record.get values idColumn)
  Column.all.forM fun column => bind (valueOf values column)
  let id ← newId table values
  if table.has id then throw .duplicateId
  pure { roster with table := some (table.put id (newRow values)) }

/-- A row with new flags and a new date of its last update. -/
def flagged (flags : Record) (date : Value) (row : Row) : Row :=
  Slots.ofFn fun column =>
    match column with
    | .flag f => ((Record.get? flags f.column).map (Column.flag f).cell).getD (row.get (.flag f))
    | .lastUpdateDate => Column.lastUpdateDate.cell date
    | column => row.get column

/-- New flags and a new date of its last update for an article; gives how many rows there were. -/
def updateFlags (roster : Roster) (id : Value) (flags : Record) (date : Value) :
    Except StatementError (Nat × Roster) := do
  if let some message := roster.outage .updateFlags then throw (.outage message)
  if let some (name, _) := flags.find? fun field => (Flag.ofColumn? field.1).isNone then throw (.unknownFlag name)
  let table ← roster.access .updateFlags
  Flag.all.forM fun flag => bind (Record.get flags flag.column)
  bind date
  let term ← idTerm id
  match rowOf? table term with
  | some (id, row) => pure (1, { roster with table := some (table.put id (flagged flags date row)) })
  | none => pure (0, roster)

/-- Removes the row of an article; gives whether there was one. -/
def delete (roster : Roster) (id : Value) : Except StatementError (Bool × Roster) := do
  let table ← roster.access .delete
  let term ← idTerm id
  match rowOf? table term with
  | some (id, _) => pure (true, { roster with table := some (table.erase id) })
  | none => pure (false, roster)

/-- Whether an entry is of another article than is meant, and holds a flag. -/
def heldByOther (term : IdTerm) (flag : Flag) (entry : Int × Row) : Verdict :=
  (entry.2.holdsFlag flag).and (term.differsFrom entry.1)

/-- The sum of a column; a column without cells has none. -/
def sum? : List Nat → Option Nat
  | [] => none
  | cells => some (cells.foldr (· + ·) 0)

/-- How many other articles hold each of some flags: for each flag a column is summed up that has a one for each of
them. Nothing is asked of the table when there are no flags. -/
def countFlags (roster : Roster) (flags : List Flag) (id : Value) : Except StatementError (List (Flag × Nat)) := do
  if let some message := roster.outage .countFlags then throw (.outage message)
  if flags.isEmpty then pure []
  else
    let table ← roster.access .countFlags
    let term ← idTerm id
    let total (flag : Flag) := sum? (table.entries.map fun entry => (heldByOther term flag entry).toNat)
    pure (flags.map fun flag => (flag, (total flag).getD 0))

/-- How many other articles hold a flag: the rows of which that holds. -/
def countFlag (roster : Roster) (flag : Flag) (id : Value) : Except StatementError Nat := do
  let table ← roster.access (.countFlag flag)
  let term ← idTerm id
  pure (table.entries.filter fun entry => heldByOther term flag entry = .holds).length

/-- How many other articles hold the flag of each of some columns, each of them named once. -/
def countColumns (roster : Roster) (columns : List String) (id : Value) :
    Except StatementError (List (Flag × Nat)) := do
  if let some message := roster.outage .countFlags then throw (.outage message)
  if let some name := columns.find? fun name => (Flag.ofColumn? name).isNone then throw (.unknownFlag name)
  let counts ← roster.countFlags (columns.filterMap Flag.ofColumn?) id
  match columns.find? fun name => 1 < columns.count name with
  | some name => throw (.repeatedColumn name)
  | none => pure counts

/-- How many other articles hold the flag of a column. -/
def countColumn (roster : Roster) (column : String) (id : Value) : Except StatementError Nat :=
  match Flag.ofColumn? column, roster.outage (.countFlag (.highlight 0)) with
  | some flag, _ => roster.countFlag flag id
  | none, some message => .error (.outage message)
  | none, none => .error (.unknownFlag column)

/-- How the database words the statement that scans the articles, in front of the parameters of the statement. -/
def scanWording : String :=
  let columns := (idColumn :: Column.all.map Column.name).map fun name => "articles_groups." ++ name
  "SELECT " ++ ", ".intercalate columns ++ " \nFROM articles_groups \nWHERE articles_groups.active = ? "
    ++ "ORDER BY articles_groups.issue_date DESC"

/-- The page on which the database explains why a statement fails. -/
def explanation : String := "https" ++ "://" ++ "sqlalche.me/e/21/e3q8"

/-- The text that reports why a scan fails; without a table it shows the statement. -/
def scanMessage : StatementError → String
  | .noTable =>
    "(sqlite3.OperationalError) " ++ StatementError.noTable.message ++ "\n[SQL: " ++ scanWording
      ++ "]\n[parameters: ('Yes',)]\n(Background on this error at: " ++ explanation ++ ")"
  | cause => cause.message

/-- The order in which articles are scanned: latest issue first, then ascending identifiers. -/
def scanBefore (a b : Int × Row) : Bool :=
  Cell.compare (b.2.get .issueDate) (a.2.get .issueDate) != .gt

/-- The active articles, latest issue first. -/
def scan (roster : Roster) : Except StatementError (List Record) := do
  let table ← roster.access .scan
  let active := table.entries.filter fun e => e.2.get .active == .text "Yes"
  pure ((active.mergeSort scanBefore).map fun (id, row) => row.record id)

/-- How many articles there are. -/
def count (roster : Roster) : Except StatementError Nat := do
  let table ← roster.access .count
  pure table.entries.length

/-- The roster with a table, an empty one if there was none. -/
def withTable (roster : Roster) : Roster := { roster with table := some (roster.table.getD .empty) }

end Roster

end FrontPage
