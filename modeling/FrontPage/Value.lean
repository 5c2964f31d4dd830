import FrontPage.Number

/-!
# Values

Article records, layout entries and settings are made of values: nothing, truth values, numbers, texts, lists and
records. A record is a list of fields in the order in which they came, each name once; `Record.get?` and `Record.set`
keep to that. A value holds (`Value.holds`) unless it is nothing, false, zero or empty.
-/

namespace FrontPage

/-- A value of a record or a document. -/
inductive Value where
  | null
  | bool (b : Bool)
  | number (n : Number)
  | text (s : String)
  | list (items : List Value)
  | record (fields : List (String × Value))
  deriving Inhabited

/-- The fields of a record, in the order in which they came. -/
abbrev Record := List (String × Value)

namespace Record

/-- The value of a field, if the record has the field. -/
def get? (fields : Record) (name : String) : Option Value := List.lookup name fields

/-- The value of a field; nothing when the record lacks the field. -/
def get (fields : Record) (name : String) : Value := (Record.get? fields name).getD .null

/-- The record has the field. -/
def has (fields : Record) (name : String) : Bool := (Record.get? fields name).isSome

/-- The record with a field changed in its place, or added at the end. -/
def set : Record → String → Value → Record
  | [], name, value => [(name, value)]
  | (n, v) :: rest, name, value => if n = name then (n, value) :: rest else (n, v) :: Record.set rest name value

/-- The record with all fields of another set in it, one after the other. -/
def merge (fields others : Record) : Record := others.foldl (fun r f => Record.set r f.1 f.2) fields

/-- Reading the field that was set gives its value. -/
@[simp] theorem get?_set_self (fields : Record) (name : String) (value : Value) :
    Record.get? (Record.set fields name value) name = some value := by
  induction fields with
  | nil => simp [Record.set, Record.get?]
  | cons f rest ih =>
    obtain ⟨n, v⟩ := f
    by_cases h : n = name
    · simp [Record.set, Record.get?, h]
    · have h' : (name == n) = false := beq_eq_false_iff_ne.mpr fun e => h e.symm
      simpa [Record.set, Record.get?, List.lookup_cons, h, h'] using ih

/-- Setting a field leaves the others as they were. -/
theorem get?_set_of_ne (fields : Record) {name other : String} (value : Value) (h : other ≠ name) :
    Record.get? (Record.set fields name value) other = Record.get? fields other := by
  induction fields with
  | nil =>
    have h' : (other == name) = false := beq_eq_false_iff_ne.mpr h
    simp [Record.set, Record.get?, List.lookup_cons, h']
  | cons f rest ih =>
    obtain ⟨n, v⟩ := f
    by_cases hn : n = name
    · subst hn
      have h' : (other == n) = false := beq_eq_false_iff_ne.mpr h
      simp [Record.set, Record.get?, List.lookup_cons, h']
    · by_cases ho : other = n
      · simp [Record.set, Record.get?, hn, ho]
      · have h' : (other == n) = false := beq_eq_false_iff_ne.mpr ho
        simpa [Record.set, Record.get?, List.lookup_cons, hn, h'] using ih

end Record

namespace Value

/-- A whole number as a value. -/
abbrev int (n : Int) : Value := .number (.int n)

/-- The value counts as true: it is not nothing, false, zero or empty. -/
def holds : Value → Bool
  | .null => false
  | .bool b => b
  | .number n => !n.isZero
  | .text s => !s.isEmpty
  | .list items => !items.isEmpty
  | .record fields => !fields.isEmpty

/-- The value, or another in its place when it does not hold. -/
def orElse (value other : Value) : Value := if value.holds then value else other

/-- The number that a value stands for in arithmetic and comparison; true is one and false is zero. -/
def asNumber? : Value → Option Number
  | .number n => some n
  | .bool b => some (.int (if b then 1 else 0))
  | _ => none

mutual

/-- The values are equal: numbers by value, texts by their characters, lists item by item, records field by field in
any order. -/
def equals : Value → Value → Bool
  | .null, .null => true
  | .text s, .text t => s == t
  | .list as, .list bs => listEquals as bs
  | .record fs, .record gs => fs.length == gs.length && recordWithin fs gs
  | .number m, .number n => m.equals n
  | .number m, .bool b => m.equals (.int (if b then 1 else 0))
  | .bool a, .number n => (Number.int (if a then 1 else 0)).equals n
  | .bool a, .bool b => a == b
  | _, _ => false

/-- The lists are equally long and equal item by item. -/
def listEquals : List Value → List Value → Bool
  | [], [] => true
  | a :: as, b :: bs => a.equals b && listEquals as bs
  | _, _ => false

/-- Every field of the first record is in the second with an equal value. -/
def recordWithin : List (String × Value) → List (String × Value) → Bool
  | [], _ => true
  | (name, value) :: rest, gs =>
    (match List.lookup name gs with
      | some other => value.equals other
      | none => false) && recordWithin rest gs

end

end Value

end FrontPage
