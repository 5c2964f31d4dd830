import FrontPage.Proofs.Number.Order
import FrontPage.Proofs.Roster.Writing

/-!
# What a row says of its article

Apart from its flags and the date of the last update, a row describes its article (`Row.Describes`): every such column
holds what the record says in it (`Record.described`). A new row describes the record that it is made of
(`Roster.describes_newRow`), and new flags leave a description as it is (`Roster.describes_flagged`). The date of the
last update is the whole part of the record's, or else the time of day (`lastUpdate_eq_ok`).
-/

namespace FrontPage

/-! ## What is to be said -/

/-- The whole part of the number that a value stands for, if it has one. -/
def Value.wholePart? (value : Value) : Option Int := value.toNumber?.bind fun n => n.truncate.toOption

/-- The whole part of the number that a value stands for; another value where that is zero or there is none. -/
def Value.wholeOr (value other : Value) : Value :=
  match value.wholePart? with
  | some n => if n = 0 then other else .int n
  | none => other

/-- What a record says in a column: a whole number where the column holds integers, and otherwise its value unless that
does not hold. -/
def Record.said (record : Record) (column : Column) : Value :=
  if column.isInteger then ((Record.get record column.name).wholePart?.map Value.int).getD .null
  else (Record.get record column.name).orElse (.text "")

/-- What a new row is to hold of a record in a column. An article is active unless its record says otherwise, and was
created when it was last updated. -/
def Record.described (record : Record) (date : Value) : Column → Value
  | .active => (Record.get record Column.active.name).orElse (.text "Yes")
  | .creationDate => (Record.get record Column.creationDate.name).wholeOr date
  | column => Record.said record column

/-- The column describes the article: it is none of a flag, nor that of the last update. -/
def Column.IsDescriptive : Column → Prop
  | .flag _ => False
  | .lastUpdateDate => False
  | _ => True

/-- Every column that describes the article holds what the record says in it. -/
def Row.Describes (row : Row) (record : Record) (date : Value) : Prop :=
  ∀ column : Column, column.IsDescriptive → row.get column = column.cell (Record.described record date column)

/-! ## Rows -/

/-- A list that is made element by element has what each element gives. -/
theorem eq_map_of_mapM_eq_ok {ε α β : Type} {f : α → Except ε β} {g : α → β} {as : List α} {bs : List β}
    (hf : ∀ a ∈ as, ∀ b, f a = .ok b → b = g a) (h : as.mapM f = .ok bs) : bs = as.map g := by
  induction as generalizing bs with
  | nil => exact (Except.ok.inj h).symm
  | cons a as ih =>
    rw [List.mapM_cons] at h
    obtain ⟨b, hb, h⟩ := bind_eq_ok_iff.mp h
    obtain ⟨rest, hrest, h⟩ := bind_eq_ok_iff.mp h
    cases h
    rw [List.map_cons, hf a List.mem_cons_self b hb, ih (fun c hc => hf c (List.mem_cons_of_mem _ hc)) hrest]

theorem Value.wholePart?_of_whole? {value : Value} {whole : Option Int} (h : value.whole? = .ok whole) :
    value.wholePart? = whole := by
  rw [whole?] at h
  rw [wholePart?]
  cases hn : value.toNumber? with
  | none =>
    rw [hn] at h
    exact Except.ok.inj h
  | some n =>
    rw [hn] at h
    dsimp only at h
    rw [Option.bind_some]
    cases ht : n.truncate with
    | error cause =>
      rw [ht] at h
      cases h
    | ok part =>
      rw [ht] at h
      exact Except.ok.inj h

/-- **The date of the last update**, if there is one, is the whole part of the record's date unless that is zero or
missing, and otherwise the time of day. -/
theorem lastUpdate_eq_ok {record : Record} {now date : Value} (h : lastUpdate record now = .ok date) :
    date = (Record.get record Column.lastUpdateDate.name).wholeOr now := by
  obtain ⟨whole, hwhole, h⟩ := bind_eq_ok_iff.mp h
  rw [Value.wholeOr, Column.name, Value.wholePart?_of_whole? hwhole]
  cases whole with
  | none => exact (Except.ok.inj h).symm
  | some n => exact (Except.ok.inj h).symm

/-- A whole number, or nothing, in whose place another value stands unless it holds. -/
theorem Value.orElse_wholePart? (value other : Value) :
    ((value.wholePart?.map Value.int).getD .null).orElse other = value.wholeOr other := by
  rw [wholeOr]
  cases value.wholePart? with
  | none => rfl
  | some n =>
    have hholds : (Value.int n).holds = true ↔ ¬n = 0 := by
      rw [holds, Bool.not_eq_true', Bool.eq_false_iff, ne_eq, Number.isZero_int]
    dsimp only [Option.map_some, Option.getD_some]
    rw [orElse]
    by_cases hn : n = 0
    · rw [if_neg fun h => hholds.mp h hn, if_pos hn]
    · rw [if_pos (hholds.mpr hn), if_neg hn]

/-- What a record says in the columns that a new row takes over from it. -/
def Record.saidFields (record : Record) : Record :=
  (wholeFields ++ textFields).map fun column => (column.name, Record.said record column)

theorem Record.get?_saidFields (record : Record) {column : Column} (h : column ∈ wholeFields ++ textFields) :
    Record.get? record.saidFields column.name = some (Record.said record column) :=
  lookup_map_of_injective (fun _ _ => Column.name_injective) (Record.said record) h

namespace Roster

variable {record : Record} {id : Value} {flags : FlagSet} {date : Value} {values : Record}

/-- The new values are what the record says, with three fields set and the flags written over them. -/
theorem rosterValues_eq_merge (h : rosterValues record id flags.record date = .ok values) :
    let active := (Record.get record Column.active.name).orElse (.text "Yes")
    let created := (Record.get record Column.creationDate.name).wholeOr date
    values = Record.merge
      (Record.set (Record.set (Record.set ((idColumn, id) :: record.saidFields) Column.active.name active)
        Column.creationDate.name created) Column.lastUpdateDate.name date) flags.record := by
  intro active created
  obtain ⟨wholes, hwholes, h⟩ := bind_eq_ok_iff.mp h
  have hinteger : ∀ column ∈ wholeFields, column.isInteger = true := by decide
  have hwhole : wholes = wholeFields.map fun column => (column.name, Record.said record column) := by
    refine eq_map_of_mapM_eq_ok (fun column hm field hfield => ?_) hwholes
    obtain ⟨whole, hwhole, hfield⟩ := bind_eq_ok_iff.mp hfield
    cases hfield
    rw [Record.said, if_pos (hinteger column hm), Value.wholePart?_of_whole? hwhole]
  have hfields : wholes ++ textFields.map (fun column =>
      (column.name, (Record.get record column.name).orElse (.text ""))) = record.saidFields := by
    rw [Record.saidFields, List.map_append, hwhole]
    rfl
  have hcreated : (Record.get (Record.set ((idColumn, id) :: record.saidFields) Column.active.name active)
      Column.creationDate.name).orElse date = created := by
    have hsaid : Record.get? record.saidFields Column.creationDate.name = some (Record.said record .creationDate) :=
      record.get?_saidFields (by decide)
    rw [Record.get, Record.get?_set_of_ne _ _ (by decide), Record.get?, List.lookup_cons,
      beq_eq_false_iff_ne.mpr Column.creationDate.name_ne_idColumn, ← Record.get?, hsaid, Option.getD_some,
      Record.said, if_pos (by decide), Value.orElse_wholePart?]
  rw [← Except.ok.inj h, hfields, ← hcreated]
  rfl

/-- What new values have for a column that describes the article. -/
theorem get?_rosterValues (h : rosterValues record id flags.record date = .ok values) {column : Column}
    (hcolumn : column.IsDescriptive) :
    Record.get? values column.name = some (Record.described record date column) := by
  have hflag : ∀ flag : Flag, flag.column ≠ column.name := by
    intro flag hname
    have he : Column.flag flag = column := Column.name_injective hname
    rw [← he] at hcolumn
    exact hcolumn
  have hothers {c : Column} (hc : column ≠ c) : column.name ≠ c.name := fun he => hc (Column.name_injective he)
  have hlast : column ≠ .lastUpdateDate := by
    rintro rfl
    exact hcolumn
  rw [rosterValues_eq_merge h, Record.get?_merge_record _ flags hflag, Record.get?_set_of_ne _ _ (hothers hlast)]
  by_cases hcreation : column = .creationDate
  · subst hcreation
    rw [Record.get?_set_self]
    rfl
  rw [Record.get?_set_of_ne _ _ (hothers hcreation)]
  by_cases hactive : column = .active
  · subst hactive
    rw [Record.get?_set_self]
    rfl
  rw [Record.get?_set_of_ne _ _ (hothers hactive), Record.get?, List.lookup_cons,
    beq_eq_false_iff_ne.mpr column.name_ne_idColumn]
  -- What is left are the columns that are taken over from the record.
  cases column with
  | flag f => exact hcolumn.elim
  | active => exact absurd rfl hactive
  | creationDate => exact absurd rfl hcreation
  | lastUpdateDate => exact absurd rfl hlast
  | _ => exact record.get?_saidFields (by decide)

/-- **A new row describes the record that it is made of.** -/
theorem describes_newRow (h : rosterValues record id flags.record date = .ok values) :
    (newRow values).Describes record date := by
  intro column hcolumn
  rw [newRow, Slots.get_ofFn, valueOf, get?_rosterValues h hcolumn]
  rfl

/-- What new values have for the date of the last update. -/
theorem get?_rosterValues_lastUpdateDate (h : rosterValues record id flags.record date = .ok values) :
    Record.get? values Column.lastUpdateDate.name = some date := by
  have hflag : ∀ flag : Flag, flag.column ≠ Column.lastUpdateDate.name := by
    intro flag hname
    have he : Column.flag flag = .lastUpdateDate := Column.name_injective hname
    cases he
  rw [rosterValues_eq_merge h, Record.get?_merge_record _ flags hflag]
  exact Record.get?_set_self _ _ _

/-- A new row holds the date of the last update that it is given. -/
theorem newRow_lastUpdateDate (h : rosterValues record id flags.record date = .ok values) :
    (newRow values).get .lastUpdateDate = Column.lastUpdateDate.cell date := by
  rw [newRow, Slots.get_ofFn, valueOf, get?_rosterValues_lastUpdateDate h]
  rfl

theorem flagged_lastUpdateDate (flags : Record) (date : Value) (row : Row) :
    (flagged flags date row).get .lastUpdateDate = Column.lastUpdateDate.cell date := by
  rw [flagged, Slots.get_ofFn]

/-- New flags leave the description as it is. -/
theorem describes_flagged {row : Row} {record : Record} {date : Value} (h : row.Describes record date) (flags : Record)
    (updated : Value) : (flagged flags updated row).Describes record date := by
  intro column hcolumn
  rw [flagged, Slots.get_ofFn]
  cases column with
  | flag f => exact hcolumn.elim
  | lastUpdateDate => exact hcolumn.elim
  | _ => exact h _ hcolumn

end Roster

end FrontPage
