import FrontPage.Proofs.Roster.Holders

/-!
# Effects of statements

What a statement did to the table when it succeeded: `contains_eq_ok`, `delete_eq_ok`, `updateFlags_eq_ok` and
`insert_eq_ok` say everything about it, and `countFlags_eq_ok` and `countFlag_eq_ok` what was counted. A statement that
names an article speaks of the identifiers that `IdTerm.ofValue` gives (`idTerm_eq_ok_iff`).
-/

namespace FrontPage

/-- One computation after another has a result if both have, the second from the result of the first. -/
theorem bind_eq_ok_iff {ε α β : Type} {x : Except ε α} {f : α → Except ε β} {b : β} :
    x >>= f = .ok b ↔ ∃ a, x = .ok a ∧ f a = .ok b := by
  constructor
  · intro h
    cases x with
    | error e => cases h
    | ok a => exact ⟨a, rfl, h⟩
  · rintro ⟨a, rfl, h⟩
    exact h

/-- A computation that has a result goes on with it. -/
theorem bind_of_ok {ε α β : Type} {x : Except ε α} {a : α} (h : x = .ok a) (f : α → Except ε β) : x >>= f = f a := by
  rw [h]
  rfl

/-- Steps that are done for the elements of a list succeed if and only if each of them does. -/
theorem forM_eq_ok_iff {ε α : Type} {f : α → Except ε Unit} {as : List α} :
    as.forM f = .ok () ↔ ∀ a ∈ as, f a = .ok () := by
  induction as with
  | nil => exact iff_of_true rfl nofun
  | cons a as ih =>
    show (f a >>= fun _ => as.forM f) = .ok () ↔ _
    rw [bind_eq_ok_iff, List.forall_mem_cons, ← ih]
    constructor
    · rintro ⟨⟨⟩, ha, has⟩
      exact ⟨ha, has⟩
    · rintro ⟨ha, has⟩
      exact ⟨(), ha, has⟩

/-! ## Identifiers -/

/-- A number put into an integer column is a number. -/
theorem Cell.ofReal_ne_null (x : Binary64) : Cell.ofReal x ≠ .null := by
  rw [Cell.ofReal]
  split
  · split <;> exact Cell.noConfusion
  · exact Cell.noConfusion

/-- What is put into an integer column stays something. -/
theorem Cell.asInteger_ne_null {cell : Cell} (h : cell ≠ .null) : cell.asInteger ≠ .null := by
  cases cell with
  | null => exact absurd rfl h
  | int n => exact h
  | real x => exact Cell.ofReal_ne_null x
  | text s =>
    rw [Cell.asInteger]
    cases hn : Cell.ofNumeral? s.toList with
    | none => exact h
    | some cell =>
      rw [Cell.ofNumeral?] at hn
      rw [Option.getD_some]
      split at hn
      · obtain ⟨numeral, -, rfl⟩ := Option.map_eq_some_iff.mp hn
        have hcell (asInt : Bool) (n : Int) : (if asInt then Cell.int n else .ofReal numeral.columnValue) ≠ .null := by
          split
          · exact Cell.noConfusion
          · exact Cell.ofReal_ne_null _
        exact hcell _ _
      · cases hn

/-- A whole number means the identifier that it is. -/
theorem IdTerm.ofValue_of_int {value : Value} {n : Int} (h : value = .int n) : IdTerm.ofValue value = .exactly n := by
  rw [h]
  rfl

/-- Of the values that can be in a table, only what is not a number neither equals nor differs from an identifier. -/
theorem IdTerm.eq_nan_of_unknown {value : Value} (href : refusal? value = Option.none)
    (h : IdTerm.ofValue value = .unknown) : value = .number (.float .nan) := by
  have hcell : value ≠ .null → (Cell.ofValue value).asInteger = .null := by
    intro hnull
    rw [IdTerm.ofValue] at h
    · cases hc : (Cell.ofValue value).asInteger with
      | null => rfl
      | int n =>
        rw [hc] at h
        cases h
      | real x =>
        rw [hc] at h
        cases h
      | text s =>
        rw [hc] at h
        cases h
    · exact hnull
  cases value with
  | null => cases h
  | bool b => cases h
  | number n =>
    cases n with
    | int k => cases h
    | float x =>
      cases x with
      | nan => rfl
      | finite negative units => exact absurd (hcell nofun) (Cell.asInteger_ne_null nofun)
      | infinite negative => exact absurd (hcell nofun) (Cell.asInteger_ne_null nofun)
  | text s => exact absurd (hcell nofun) (Cell.asInteger_ne_null nofun)
  | list items => cases href
  | record fields => cases href

/-! ## Statements -/

namespace Roster

variable {roster after : Roster} {table : Table} {id : Value}

/-- A statement that is in order gets the table. -/
theorem access_eq_ok_iff (htable : roster.table = some table) {query : Query} {got : Table} :
    roster.access query = .ok got ↔ got = table ∧ roster.outage query = none := by
  rw [access, htable]
  cases roster.outage query <;> simp [eq_comm]

/-- A value that can be in a table means the identifiers of its term. -/
theorem idTerm_eq_ok_iff {term : IdTerm} : idTerm id = .ok term ↔ refusal? id = none ∧ term = .ofValue id := by
  rw [idTerm, bind]
  cases refusal? id with
  | none =>
    constructor
    · intro h
      exact ⟨rfl, (Except.ok.inj h).symm⟩
    · rintro ⟨-, rfl⟩
      rfl
  | some cause =>
    constructor
    · intro h
      cases h
    · rintro ⟨h, -⟩
      cases h

/-- A value can be in a table if there is nothing to refuse it for. -/
theorem bind_eq_ok_iff_refusal {value : Value} : bind value = .ok () ↔ refusal? value = none := by
  rw [bind]
  cases refusal? value <;> simp

/-- A statement about an article that begins with the table and the article's term goes on with these. -/
theorem named_eq_ok (htable : roster.table = some table) {α : Type} {query : Query}
    {f : Table → IdTerm → Except StatementError α} {a : α}
    (h : (do
      let got ← roster.access query
      let term ← idTerm id
      f got term) = .ok a) : refusal? id = none ∧ f table (.ofValue id) = .ok a := by
  obtain ⟨got, hgot, h⟩ := bind_eq_ok_iff.mp h
  obtain ⟨term, hterm, h⟩ := bind_eq_ok_iff.mp h
  obtain ⟨rfl, -⟩ := (access_eq_ok_iff htable).mp hgot
  obtain ⟨hid, rfl⟩ := idTerm_eq_ok_iff.mp hterm
  exact ⟨hid, h⟩

/-- The row that a term means is that of the one identifier it names. -/
theorem rowOf?_eq_some_iff {term : IdTerm} {n : Int} {row : Row} :
    rowOf? table term = some (n, row) ↔ term = .exactly n ∧ table.find? n = some row := by
  cases term with
  | exactly m =>
    rw [rowOf?, Option.map_eq_some_iff]
    constructor
    · rintro ⟨r, hr, he⟩
      cases he
      exact ⟨rfl, hr⟩
    · rintro ⟨hm, hr⟩
      cases hm
      exact ⟨row, hr, rfl⟩
  | _ => simp [rowOf?]

/-- Where a term means no row, leaving it out changes nothing. -/
theorem without_of_rowOf?_eq_none {term : IdTerm} (h : rowOf? table term = none) : table.without term = table := by
  cases term with
  | exactly n =>
    have hn : table.find? n = none := Option.map_eq_none_iff.mp h
    refine Table.ext_find? fun other => ?_
    rw [Table.without, Table.find?_erase]
    split
    · next ho => rw [ho, hn]
    · rfl
  | _ => rfl

/-- Asking for an article whose identifier can be in a table tells whether its term means a row. -/
theorem contains_eq_ok (htable : roster.table = some table) {found : Bool} (h : roster.contains id = .ok found) :
    refusal? id = none ∧ found = (rowOf? table (.ofValue id)).isSome := by
  obtain ⟨hid, h⟩ := named_eq_ok htable h
  exact ⟨hid, (Except.ok.inj h).symm⟩

/-- Removing an article leaves the table without the row that its term means. -/
theorem delete_eq_ok (htable : roster.table = some table) {found : Bool} (h : roster.delete id = .ok (found, after)) :
    after = { roster with table := some (table.without (.ofValue id)) } := by
  obtain ⟨-, h⟩ := named_eq_ok htable h
  cases hr : rowOf? table (.ofValue id) with
  | none =>
    rw [hr] at h
    cases h
    rw [without_of_rowOf?_eq_none hr, ← htable]
  | some entry =>
    obtain ⟨n, row⟩ := entry
    rw [hr] at h
    cases h
    rw [(rowOf?_eq_some_iff.mp hr).1]
    rfl

/-- New flags go to the row that the article's term means, if there is one. -/
theorem updateFlags_eq_ok (htable : roster.table = some table) {flags : Record} {date : Value} {count : Nat}
    (h : roster.updateFlags id flags date = .ok (count, after)) :
    (rowOf? table (.ofValue id) = none ∧ after = roster) ∨
      ∃ n row, IdTerm.ofValue id = .exactly n ∧ table.find? n = some row ∧
        after = { roster with table := some (table.put n (flagged flags date row)) } := by
  rw [updateFlags] at h
  split at h
  · cases h
  split at h
  · cases h
  obtain ⟨got, hgot, h⟩ := bind_eq_ok_iff.mp h
  obtain ⟨-, -, h⟩ := bind_eq_ok_iff.mp h
  obtain ⟨-, -, h⟩ := bind_eq_ok_iff.mp h
  obtain ⟨term, hterm, h⟩ := bind_eq_ok_iff.mp h
  obtain ⟨rfl, -⟩ := (access_eq_ok_iff htable).mp hgot
  obtain ⟨-, rfl⟩ := idTerm_eq_ok_iff.mp hterm
  cases hr : rowOf? got (.ofValue id) with
  | none =>
    rw [hr] at h
    cases h
    exact .inl ⟨rfl, rfl⟩
  | some entry =>
    obtain ⟨n, row⟩ := entry
    rw [hr] at h
    cases h
    obtain ⟨hn, hrow⟩ := rowOf?_eq_some_iff.mp hr
    exact .inr ⟨n, row, hn, hrow, rfl⟩

/-- A date that was written can be in a table. -/
theorem refusal_of_updateFlags {flags : Record} {date : Value} {count : Nat}
    (h : roster.updateFlags id flags date = .ok (count, after)) : refusal? date = none := by
  rw [updateFlags] at h
  split at h
  · cases h
  split at h
  · cases h
  obtain ⟨_, -, h⟩ := bind_eq_ok_iff.mp h
  obtain ⟨_, -, h⟩ := bind_eq_ok_iff.mp h
  obtain ⟨_, hdate, -⟩ := bind_eq_ok_iff.mp h
  exact bind_eq_ok_iff_refusal.mp hdate

/-- An insertion that succeeds has values that can be in a table, and puts in a row for an identifier that has none. -/
theorem insert_passed (htable : roster.table = some table) {values : Record} (h : roster.insert values = .ok after) :
    Column.all.forM (fun column => bind (valueOf values column)) = .ok () ∧
      ∃ n, newId table values = .ok n ∧ table.find? n = none ∧
        after = { roster with table := some (table.put n (newRow values)) } := by
  rw [insert] at h
  cases hout : roster.outage .insert with
  | some message =>
    rw [hout] at h
    cases h
  | none =>
  rw [hout] at h
  cases hreserved : values.find? fun field => reservedNames.contains field.1 with
  | some field =>
    rw [hreserved] at h
    cases h
  | none =>
  rw [hreserved] at h
  cases htaken : values.find? fun field => tableNames.contains field.1 with
  | some field =>
    rw [htaken] at h
    cases h
  | none =>
  rw [htaken] at h
  cases hunknown : values.find? fun field => !isColumn field.1 with
  | some field =>
    rw [hunknown] at h
    cases h
  | none =>
  rw [hunknown] at h
  obtain ⟨got, hgot, h⟩ := bind_eq_ok_iff.mp h
  obtain ⟨-, -, h⟩ := bind_eq_ok_iff.mp h
  obtain ⟨⟨⟩, hcolumns, h⟩ := bind_eq_ok_iff.mp h
  obtain ⟨n, hn, h⟩ := bind_eq_ok_iff.mp h
  obtain ⟨rfl, -⟩ := (access_eq_ok_iff htable).mp hgot
  split at h
  · cases h
  · next hhas =>
    cases h
    exact ⟨hcolumns, n, hn, Option.not_isSome_iff_eq_none.mp hhas, rfl⟩

/-- A new row is put in for an identifier that has none. -/
theorem insert_eq_ok (htable : roster.table = some table) {values : Record} (h : roster.insert values = .ok after) :
    ∃ n, newId table values = .ok n ∧ table.find? n = none ∧
      after = { roster with table := some (table.put n (newRow values)) } := (insert_passed htable h).2

/-- Every value that was put into a column can be in a table. -/
theorem refusal_of_insert (htable : roster.table = some table) {values : Record} (h : roster.insert values = .ok after)
    (column : Column) : refusal? (valueOf values column) = none := by
  have hcolumns := forM_eq_ok_iff.mp (insert_passed htable h).1
  exact bind_eq_ok_iff_refusal.mp (hcolumns column (Numbered.mem_list column))

/-- All counted at once, each of some flags is counted with the article left out. -/
theorem countFlags_eq_ok (htable : roster.table = some table) {flags : List Flag} {counts : List (Flag × Nat)}
    (h : roster.countFlags flags id = .ok counts) :
    counts = flags.map fun flag => (flag, holders table (.ofValue id) flag) := by
  rw [countFlags] at h
  split at h
  · cases h
  split at h
  · next hempty =>
    cases h
    rw [List.isEmpty_iff.mp hempty]
    rfl
  · rw [← Except.ok.inj (named_eq_ok htable h).2]
    exact List.map_congr_left fun flag _ => congrArg _ (sum?_heldByOther table _ flag)

/-- With the statement in order, any flags can be counted for an article whose identifier can be in a table. -/
theorem exists_countFlags (htable : roster.table = some table) (hin : roster.outage .countFlags = none)
    (hid : refusal? id = none) (flags : List Flag) : ∃ counts, roster.countFlags flags id = .ok counts := by
  rw [countFlags, hin]
  cases flags.isEmpty with
  | true => exact ⟨[], rfl⟩
  | false =>
    have hgot := (access_eq_ok_iff htable).mpr ⟨rfl, hin⟩
    have hterm := idTerm_eq_ok_iff.mpr ⟨hid, rfl⟩
    exact ⟨_, bind_eq_ok_iff.mpr ⟨table, hgot, bind_eq_ok_iff.mpr ⟨_, hterm, rfl⟩⟩⟩

/-- Counted for itself, a flag is counted with the article left out. -/
theorem countFlag_eq_ok (htable : roster.table = some table) {flag : Flag} {count : Nat}
    (h : roster.countFlag flag id = .ok count) : count = holders table (.ofValue id) flag := by
  rw [← Except.ok.inj (named_eq_ok htable h).2]
  exact length_heldByOther table _ flag

end Roster

end FrontPage
