import FrontPage.Classification.Placement
import FrontPage.Proofs.Roster.Effects
import FrontPage.Proofs.Value.Fields

/-!
# Rows that are written

Whether a row is new (`Roster.newRow_flag`) or gets its flags changed (`Roster.flagged_flag`), it says of every flag
whether the flags written hold it (`Row.Carries`). A new row is put in for the identifier that its record names
(`Roster.newId_eq_ok`).
-/

namespace FrontPage

/-! ## Columns by their names -/

theorem nodup_columnNames : (idColumn :: Column.all.map Column.name).Nodup := by decide +kernel

/-- Columns have different names. -/
theorem Column.name_injective {column other : Column} (h : column.name = other.name) : column = other := by
  have hnodup := (List.nodup_cons.mp nodup_columnNames).2
  exact List.inj_on_of_nodup_map hnodup (Numbered.mem_list column) (Numbered.mem_list other) h

/-- The identifier is in no other column. -/
theorem Column.name_ne_idColumn (column : Column) : column.name ≠ idColumn := fun h =>
  (List.nodup_cons.mp nodup_columnNames).1 (h ▸ List.mem_map_of_mem (Numbered.mem_list column))

/-- The identifier is in no column of a flag. -/
theorem Flag.column_ne_idColumn (flag : Flag) : flag.column ≠ idColumn := (Column.flag flag).name_ne_idColumn

/-! ## Records of flags -/

/-- The flag of a column is found by its name. -/
theorem Flag.ofColumn?_column (flag : Flag) : Flag.ofColumn? flag.column = some flag := by
  have h : ∀ f ∈ Flag.all, Flag.ofColumn? f.column = some f := by decide +kernel
  exact h flag (Numbered.mem_list flag)

/-- Flags have columns of different names. -/
theorem Flag.column_injective {f g : Flag} (h : f.column = g.column) : f = g := by
  have hf := f.ofColumn?_column
  rw [h, g.ofColumn?_column] at hf
  exact (Option.some.inj hf).symm

/-- Fields whose names are those of different things are found by the things. -/
theorem lookup_map_of_injective {α β : Type} {name : α → String} (hname : Function.Injective name) (f : α → β) {a : α}
    {as : List α} (h : a ∈ as) : (as.map fun a => (name a, f a)).lookup (name a) = some (f a) := by
  induction as with
  | nil => exact absurd h List.not_mem_nil
  | cons first rest ih =>
    rw [List.map_cons, List.lookup_cons]
    by_cases hf : a = first
    · simp [hf]
    · have hne : (name a == name first) = false := beq_eq_false_iff_ne.mpr fun e => hf (hname e)
      rw [hne]
      exact ih ((List.mem_cons.mp h).resolve_left hf)

namespace FlagSet

/-- The record of flags has the columns of all flags, in order. -/
theorem map_fst_record (flags : FlagSet) : flags.record.map Prod.fst = Flag.all.map Flag.column := by
  rw [record, Slots.toList, Flag.all, List.map_map, List.map_map]
  rfl

theorem nodup_record (flags : FlagSet) : (flags.record.map Prod.fst).Nodup := by
  rw [flags.map_fst_record]
  decide +kernel

/-- The record of flags says of each flag whether it is held. -/
theorem get?_record (flags : FlagSet) (flag : Flag) :
    Record.get? flags.record flag.column = some (.text (Flag.word (flags.get flag))) := by
  rw [Record.get?, record, Slots.toList, List.map_map]
  exact lookup_map_of_injective (fun _ _ => Flag.column_injective) (fun f => Value.text (Flag.word (flags.get f)))
    (Numbered.mem_list flag)

/-- The record of flags has no other fields. -/
theorem get?_record_of_ne (flags : FlagSet) {name : String} (h : ∀ flag : Flag, flag.column ≠ name) :
    Record.get? flags.record name = none := by
  rw [Record.get?, List.lookup_eq_none_iff]
  intro field hm
  have hname : field.1 ∈ Flag.all.map Flag.column := flags.map_fst_record ▸ List.mem_map_of_mem hm
  obtain ⟨flag, -, hf⟩ := List.mem_map.mp hname
  exact bne_iff_ne.mpr fun e => h flag (hf.trans e.symm)

/-- Some flag is held if and only if one is. -/
theorem any_eq_true_iff {flags : FlagSet} : flags.any = true ↔ ∃ flag, flags.get flag = true := by
  rw [any, List.any_eq_true]
  constructor
  · rintro ⟨flag, -, h⟩
    exact ⟨flag, h⟩
  · rintro ⟨flag, h⟩
    exact ⟨flag, Numbered.mem_list flag, h⟩

end FlagSet

/-- Merging a record of flags changes no other field. -/
theorem Record.get?_merge_record (fields : Record) (flags : FlagSet) {name : String}
    (h : ∀ flag : Flag, flag.column ≠ name) :
    Record.get? (Record.merge fields flags.record) name = Record.get? fields name := by
  rw [Record.get?_merge _ flags.nodup_record, flags.get?_record_of_ne h, Option.none_or]

/-! ## Rows -/

/-- The row says of every flag whether the flags hold it. -/
def Row.Carries (row : Row) (flags : FlagSet) : Prop :=
  ∀ flag, row.get (.flag flag) = .text (Flag.word (flags.get flag))

/-- Such a row holds the flags that are held. -/
theorem Row.Carries.holds_eq {row : Row} {flags : FlagSet} (h : row.Carries flags) (flag : Flag) :
    row.holds flag = flags.get flag := by
  rw [Row.holds, h flag]
  cases flags.get flag <;> decide

namespace Roster

/-- A row whose flags are changed carries the new ones. -/
theorem carries_flagged (flags : FlagSet) (date : Value) (row : Row) : (flagged flags.record date row).Carries flags := by
  intro flag
  rw [flagged, Slots.get_ofFn]
  simp only [flags.get?_record flag, Option.map_some, Option.getD_some]
  rfl

/-- A new row carries the flags that its values have. -/
theorem carries_newRow {values : Record} {flags : FlagSet}
    (h : ∀ flag : Flag, Record.get? values flag.column = some (.text (Flag.word (flags.get flag)))) :
    (newRow values).Carries flags := by
  intro flag
  have hvalue : valueOf values (.flag flag) = .text (Flag.word (flags.get flag)) := by
    rw [valueOf, Column.name, h flag]
    rfl
  rw [newRow, Slots.get_ofFn, hvalue]
  rfl

end Roster

/-- What a new row holds of a record: the flags that it is given, and the identifier. -/
theorem rosterValues_eq_ok {record : Record} {id : Value} {flags : FlagSet} {date : Value} {values : Record}
    (h : rosterValues record id flags.record date = .ok values) :
    (∀ flag : Flag, Record.get? values flag.column = some (.text (Flag.word (flags.get flag)))) ∧
      Record.get values idColumn = id := by
  obtain ⟨wholes, -, h⟩ := bind_eq_ok_iff.mp h
  have hvalues := (Except.ok.inj h).symm
  constructor
  · intro flag
    rw [hvalues, Record.get?_merge _ flags.nodup_record, flags.get?_record]
    rfl
  · rw [hvalues, Record.get, Record.get?_merge_record _ flags Flag.column_ne_idColumn,
      Record.get?_set_of_ne _ _ (by decide), Record.get?_set_of_ne _ _ (by decide),
      Record.get?_set_of_ne _ _ (by decide)]
    rfl

/-- A new row is for the identifier that its values name, if they name one. -/
theorem Roster.newId_eq_ok {table : Table} {values : Record} {n : Int} (h : Roster.newId table values = .ok n)
    (hnull : Record.get values idColumn ≠ .null) :
    IdTerm.ofValue (Record.get values idColumn) = .exactly n ∨
      IdTerm.ofValue (Record.get values idColumn) = .unknown := by
  rw [Roster.newId] at h
  rw [IdTerm.ofValue]
  · cases hc : (Cell.ofValue (Record.get values idColumn)).asInteger with
    | int m =>
      rw [hc] at h
      cases h
      exact .inl rfl
    | null => exact .inr rfl
    | real x =>
      rw [hc] at h
      cases h
    | text s =>
      rw [hc] at h
      cases h
  · exact hnull

end FrontPage
