import FrontPage.Sorting.Insertion
import FrontPage.Value.Order
import FrontPage.Value.Parts

/-!
# Sort specifications

A sort specification is a list of fields with directions, written `issue_date DESC, heading ASC`; descending is the
direction of a field that does not say `ASC`. `SortSpec.read` reads it, `sortRecords` sorts records by it: the first
field on which two records differ decides, and records that differ on none keep their order. `sortValues` sorts values
by a specification that is a value too, and fails as soon as two values that are compared, or what they are compared by,
are not what they should be.
-/

namespace FrontPage

/-- Smallest first or largest first. -/
inductive Direction where
  | ascending
  | descending
  deriving DecidableEq, Repr

/-- A field to sort by. -/
structure SortKey where
  field : String
  direction : Direction
  deriving DecidableEq, Repr

/-- The fields to sort by, the deciding ones first. -/
abbrev SortSpec := List SortKey

/-- A word in the place of a field that no field can have as its name. -/
structure InvalidSortField where
  field : String
  deriving DecidableEq, Repr

namespace SortKey

/-- ASCII letters, digits and the underscore make up the names of fields to sort by. -/
def isFieldChar (c : Char) : Bool := c.isAlphanum || c == '_'

/-- The word says ascending: its letters are A, S and C in any case, the long s included. -/
def saysAscending : List Char → Bool
  | [a, s, c] => (a == 'a' || a == 'A') && (s == 's' || s == 'S' || s == 'ſ') && (c == 'c' || c == 'C')
  | _ => false

/-- The key of one entry of a specification; a blank entry has none. -/
def read (entry : List Char) : Except InvalidSortField (Option SortKey) :=
  match Text.words entry with
  | [] => .ok none
  | field :: others =>
    if field.all isFieldChar then
      let ascending := (others.head?.map saysAscending).getD false
      .ok (some ⟨String.ofList field, if ascending then .ascending else .descending⟩)
    else .error ⟨String.ofList field⟩

end SortKey

/-- The specification that a text writes, entries separated by commas. -/
def SortSpec.read (text : String) : Except InvalidSortField SortSpec :=
  ((Text.pieces ',' text.toList).mapM SortKey.read).map fun keys => keys.filterMap id

/-- The order of two records by one key. -/
def SortKey.compare (key : SortKey) (a b : Record) : Ordering :=
  let order := (Record.get a key.field).compareWith (Record.get b key.field)
  match key.direction with
  | .ascending => order
  | .descending => order.swap

/-- The order of two records by the first key on which they differ. -/
def SortSpec.compare : SortSpec → Record → Record → Ordering
  | [], _, _ => .eq
  | key :: rest, a, b => (key.compare a b).then (SortSpec.compare rest a b)

/-- The records in the order of a specification. -/
def sortRecords (spec : SortSpec) (records : List Record) : List Record :=
  records.mergeSort fun a b => SortSpec.compare spec a b != .gt

/-- What is wrong with an entry of a specification. -/
inductive EntryFlaw where
  /-- It is no pair. -/
  | noPair (cause : Misuse)
  /-- Its field cannot be looked up. -/
  | noField
  deriving DecidableEq, Repr

/-- What to sort by; nothing, where no field can have the name, and all records agree. -/
abbrev SortEntry := Option SortKey

/-- What a pair of a field and a direction says to sort by. -/
def SortEntry.ofPair (entry : Value) : Except EntryFlaw SortEntry := do
  let (field, direction) ← entry.pair.mapError .noPair
  match field with
  | .text field => pure (some ⟨field, if direction.equals (.text "ASC") then .ascending else .descending⟩)
  | field => if field.isName then pure none else throw .noField

/-- What the entries in front of the first with a flaw say to sort by, and that flaw if there is one. -/
def SortEntry.ofValues : List Value → List SortEntry × Option EntryFlaw
  | [] => ([], none)
  | value :: rest =>
    match SortEntry.ofPair value with
    | .error flaw => ([], some flaw)
    | .ok entry =>
      let (entries, flaw) := SortEntry.ofValues rest
      (entry :: entries, flaw)

/-- The order of two values by entries behind which a flaw may follow: they must have fields, unless there are no
entries, and come to the flaw if they agree. -/
def SortEntry.compare (entries : List SortEntry) (flaw : Option EntryFlaw) (a b : Value) : Except Misuse Ordering :=
  match entries, a, b with
  | entry :: rest, .record x, .record y =>
    match entry.elim .eq fun key => key.compare x y with
    | .eq => SortEntry.compare rest flaw a b
    | order => .ok order
  | _ :: _, _, _ => .error .noOperation
  | [], a, _ =>
    match flaw, a with
    | none, _ => .ok .eq
    | some (.noPair cause), _ => .error cause
    | some .noField, .record _ => .error .wrongKind
    | some .noField, _ => .error .noOperation

/-- The values in the order of entries behind which a flaw may follow. -/
def sortByEntries (entries : List SortEntry) (flaw : Option EntryFlaw) (values : List Value) :
    Except Misuse (List Value) :=
  sortByInsertion (fun a b => (SortEntry.compare entries flaw a b).map (· == .lt)) values

/-- The parts of a value sorted by a specification; where there is none they keep their order. -/
def sortBy (spec : SortSpec) (items : Value) : Except Misuse (List Value) := do
  let values ← items.parts
  if spec.isEmpty then pure values else sortByEntries (spec.map some) none values

/-- The parts of a value sorted by a specification that is a value. -/
def sortValues (spec items : Value) : Except Misuse (List Value) := do
  let values ← items.parts
  if !spec.holds || values.length < 2 then pure values
  else
    let (entries, flaw) := SortEntry.ofValues (← spec.parts)
    sortByEntries entries flaw values

end FrontPage
