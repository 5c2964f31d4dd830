import FrontPage.Proofs.Roster.Description

/-!
# What a classification does

`Effect` lists everything that a classification can do to the table of the roster, with the flags and the outcome that
it gives then, and `classify_effect` says that there is nothing else. Whoever proves something about all
classifications goes through its cases.
-/

namespace FrontPage

/-- The flags that a classification resolves for an article. -/
def resolvedFlags (config : LayoutConfig) (roster : Roster) (record : Record) : FlagSet :=
  (resolveFlags config roster record (Record.get record idColumn)).flags

/-- A table, flags and an outcome that a classification can leave when there is a certain table before it. -/
inductive Effect (config : LayoutConfig) (roster : Roster) (table : Table) (record : Record) (operation : Operation)
    (now : Value) : Table → Option FlagSet → ClassificationOutcome → Prop
  /-- Without an identifier nothing is done. -/
  | skipped : (Record.get record idColumn).holds = false →
      Effect config roster table record operation now table none .skipped
  /-- A statement failed on the way, or a date has no whole part. -/
  | failed : (Record.get record idColumn).holds = true →
      Effect config roster table record operation now table none .error
  | deleted : (Record.get record idColumn).holds = true → operation = .delete →
      Effect config roster table record operation now
        (table.without (.ofValue (Record.get record idColumn))) none .deleted
  /-- The article has no flag, and so no row. -/
  | cleared : (Record.get record idColumn).holds = true → operation ≠ .delete →
      (resolvedFlags config roster record).any = false →
      Effect config roster table record operation now
        (table.without (.ofValue (Record.get record idColumn))) (some (resolvedFlags config roster record)) .deleted
  /-- The article has its row already. -/
  | updated {id : Int} {row : Row} {date : Value} : operation ≠ .delete →
      (resolvedFlags config roster record).any = true → lastUpdate record now = .ok date →
      IdTerm.ofValue (Record.get record idColumn) = .exactly id → table.find? id = some row →
      Effect config roster table record operation now
        (table.put id (Roster.flagged (resolvedFlags config roster record).record date row))
        (some (resolvedFlags config roster record)) .upserted
  /-- The article gets a new row; what is no number names no identifier, and gets the next free one. -/
  | inserted {id : Int} {values : Record} {date : Value} : operation ≠ .delete →
      (resolvedFlags config roster record).any = true → lastUpdate record now = .ok date →
      IdTerm.ofValue (Record.get record idColumn) = .exactly id ∨
        Record.get record idColumn = .number (.float .nan) →
      table.find? id = none →
      rosterValues record (Record.get record idColumn) (resolvedFlags config roster record).record date = .ok values →
      Effect config roster table record operation now (table.put id (Roster.newRow values))
        (some (resolvedFlags config roster record)) .upserted

section

variable {roster after : Roster} {table : Table} {record : Record} {id : Value} {flags : FlagSet} {now : Value}

/-- A removal that succeeds leaves the table without the article's row. -/
theorem remove_eq_ok (htable : roster.table = some table) (h : (remove roster id).result = .ok after) :
    after = { roster with table := some (table.without (.ofValue id)) } := by
  rw [remove] at h
  cases hd : roster.delete id with
  | error cause =>
    rw [hd] at h
    cases h
  | ok deleted =>
    rw [hd] at h
    cases h
    exact Roster.delete_eq_ok htable hd

/-- An article is written to its row, or to a new one if it has none, with a date that can be in a table. -/
theorem upsert_eq_ok (htable : roster.table = some table) (hnull : id ≠ .null)
    (h : (upsert roster record id flags now).result = .ok after) :
    ∃ date, (lastUpdate record now = .ok date ∧ refusal? date = none) ∧
      ((∃ n row, IdTerm.ofValue id = .exactly n ∧ table.find? n = some row ∧
          after = { roster with table := some (table.put n (Roster.flagged flags.record date row)) }) ∨
        ∃ n values, (IdTerm.ofValue id = .exactly n ∨ id = .number (.float .nan)) ∧
          table.find? n = none ∧ rosterValues record id flags.record date = .ok values ∧
          after = { roster with table := some (table.put n (Roster.newRow values)) }) := by
  rw [upsert] at h
  cases hdate : lastUpdate record now with
  | error cause =>
    rw [hdate] at h
    cases h
  | ok date =>
  refine ⟨date, ?_⟩
  simp only [hdate] at h
  cases hfound : roster.contains id with
  | error cause =>
    rw [hfound] at h
    cases h
  | ok found =>
  cases found with
  | true =>
    simp only [hfound] at h
    cases hu : roster.updateFlags id flags.record date with
    | error cause =>
      rw [hu] at h
      cases h
    | ok updated =>
      rw [hu] at h
      cases h
      refine ⟨⟨rfl, Roster.refusal_of_updateFlags hu⟩, ?_⟩
      rcases Roster.updateFlags_eq_ok htable hu with ⟨hnone, -⟩ | hrow
      · have hsome := (Roster.contains_eq_ok htable hfound).2
        rw [hnone] at hsome
        cases hsome
      · exact .inl hrow
  | false =>
    simp only [hfound] at h
    cases hv : rosterValues record id flags.record date with
    | error cause =>
      rw [hv] at h
      cases h
    | ok values =>
      simp only [hv] at h
      cases hi : roster.insert values with
      | error cause =>
        rw [hi] at h
        cases h
      | ok inserted =>
        rw [hi] at h
        cases h
        have hlast := Roster.refusal_of_insert htable hi .lastUpdateDate
        rw [Roster.valueOf, Roster.get?_rosterValues_lastUpdateDate hv] at hlast
        refine ⟨⟨rfl, hlast⟩, ?_⟩
        obtain ⟨n, hn, hfree, hafter⟩ := Roster.insert_eq_ok htable hi
        have hid := (rosterValues_eq_ok hv).2
        have hterm := Roster.newId_eq_ok hn (by rw [hid]; exact hnull)
        rw [hid] at hterm
        have hnan := IdTerm.eq_nan_of_unknown (Roster.contains_eq_ok htable hfound).1
        exact .inr ⟨n, values, hterm.imp_right hnan, hfree, rfl, hafter⟩

end

/-- A classification after a placement that succeeded. -/
theorem Placement.classified_of_ok {placement : Placement Roster} {after : Roster} (h : placement.result = .ok after)
    (roster : Roster) (flags : Option FlagSet) (outcome : ClassificationOutcome) :
    placement.classified roster flags outcome = ⟨after, flags, outcome, placement.trace⟩ := by
  rw [Placement.classified, h]

/-- A classification after a placement that failed. -/
theorem Placement.classified_of_error {placement : Placement Roster} {cause : PlacementError}
    (h : placement.result = .error cause) (roster : Roster) (flags : Option FlagSet)
    (outcome : ClassificationOutcome) :
    placement.classified roster flags outcome = ⟨roster, none, .error, placement.trace⟩ := by
  rw [Placement.classified, h]

section

variable (config : LayoutConfig) (roster : Roster) {record : Record} {operation : Operation} (now : Value)

/-- An article without an identifier is skipped. -/
theorem classify_of_not_holds (h : (Record.get record idColumn).holds = false) (operation : Operation) :
    classify config roster record operation now = ⟨roster, none, .skipped, []⟩ := by
  unfold classify
  simp [h]

/-- An article that is deleted. -/
theorem classify_delete (h : (Record.get record idColumn).holds = true) :
    classify config roster record .delete now = classifyDeleted roster (Record.get record idColumn) := if_pos h

/-- An article that is created or updated. -/
theorem classify_of_saved (h : (Record.get record idColumn).holds = true) (hop : operation ≠ .delete) :
    classify config roster record operation now =
      classifySaved config roster record (Record.get record idColumn) now := by
  cases operation with
  | delete => exact absurd rfl hop
  | create => exact if_pos h
  | update => exact if_pos h

end

/-- Without a table every statement fails. -/
theorem Roster.access_of_noTable {roster : Roster} (h : roster.table = none) (query : Query) :
    ∃ cause, roster.access query = .error cause := by
  rw [access, h]
  cases roster.outage query with
  | some message => exact ⟨_, rfl⟩
  | none => exact ⟨_, rfl⟩

/-- Without a table nothing is removed. -/
theorem remove_of_noTable {roster : Roster} (h : roster.table = none) (id : Value) :
    ∃ cause, (remove roster id).result = .error cause := by
  obtain ⟨cause, hcause⟩ := Roster.access_of_noTable h .delete
  have hdelete : roster.delete id = .error cause := by
    rw [Roster.delete, hcause]
    rfl
  rw [remove, hdelete]
  exact ⟨_, rfl⟩

/-- Without a table nothing is placed. -/
theorem place_of_noTable {roster : Roster} (h : roster.table = none) (record : Record) (id : Value) (flags : FlagSet)
    (now : Value) : ∃ cause, (place roster record id flags now).result = .error cause := by
  rw [place]
  split
  · rw [upsert]
    cases lastUpdate record now with
    | error cause => exact ⟨_, rfl⟩
    | ok date =>
      obtain ⟨cause, hcause⟩ := Roster.access_of_noTable h .contains
      have hcontains : roster.contains id = .error cause := by
        rw [Roster.contains, hcause]
        rfl
      simp only [hcontains]
      exact ⟨_, rfl⟩
  · exact remove_of_noTable h id

/-- Without a table a classification is skipped or fails, and changes nothing. -/
theorem classify_of_noTable (config : LayoutConfig) {roster : Roster} (h : roster.table = none) (record : Record)
    (operation : Operation) (now : Value) :
    ∃ outcome trace, classify config roster record operation now = ⟨roster, none, outcome, trace⟩ ∧
      (outcome = .skipped ∨ outcome = .error) := by
  cases hid : (Record.get record idColumn).holds with
  | false => exact ⟨_, _, classify_of_not_holds config roster now hid operation, .inl rfl⟩
  | true =>
    by_cases hop : operation = .delete
    · obtain ⟨cause, hcause⟩ := remove_of_noTable h (Record.get record idColumn)
      rw [hop, classify_delete config roster now hid, classifyDeleted, Placement.classified_of_error hcause]
      exact ⟨_, _, rfl, .inr rfl⟩
    · rw [classify_of_saved config roster now hid hop, classifySaved]
      obtain ⟨cause, hcause⟩ := place_of_noTable h record (Record.get record idColumn)
        (resolveFlags config roster record (Record.get record idColumn)).flags now
      simp only [Placement.classified_of_error hcause]
      exact ⟨_, _, rfl, .inr rfl⟩

/-- **What a classification does to the table.** The statements that are out of order stay as they are, and what is
left is one of the effects. -/
theorem classify_effect (config : LayoutConfig) {roster : Roster} {table : Table} (htable : roster.table = some table)
    (record : Record) (operation : Operation) (now : Value) :
    ∃ after, (classify config roster record operation now).roster = { roster with table := some after } ∧
      Effect config roster table record operation now after (classify config roster record operation now).flags
        (classify config roster record operation now).outcome := by
  have hkept : roster = { roster with table := some table } := by rw [← htable]
  cases hid : (Record.get record idColumn).holds with
  | false =>
    rw [classify_of_not_holds config roster now hid]
    exact ⟨table, hkept, .skipped hid⟩
  | true =>
  have hnull : Record.get record idColumn ≠ .null := by
    intro hn
    rw [hn] at hid
    cases hid
  by_cases hop : operation = .delete
  · rw [hop, classify_delete config roster now hid, classifyDeleted]
    cases hr : (remove roster (Record.get record idColumn)).result with
    | error cause =>
      rw [Placement.classified_of_error hr]
      exact ⟨table, hkept, .failed hid⟩
    | ok after =>
      rw [Placement.classified_of_ok hr]
      exact ⟨_, remove_eq_ok htable hr, .deleted hid rfl⟩
  · rw [classify_of_saved config roster now hid hop, classifySaved, place]
    cases hany : (resolvedFlags config roster record).any with
    | false =>
      rw [resolvedFlags] at hany
      rw [hany]
      cases hr : (remove roster (Record.get record idColumn)).result with
      | error cause =>
        simp only [Bool.false_eq_true, if_false, Placement.classified_of_error hr]
        exact ⟨table, hkept, .failed hid⟩
      | ok after =>
        simp only [Bool.false_eq_true, if_false, Placement.classified_of_ok hr]
        exact ⟨_, remove_eq_ok htable hr, .cleared hid hop hany⟩
    | true =>
      rw [resolvedFlags] at hany
      rw [hany]
      cases hr : (upsert roster record (Record.get record idColumn)
          (resolveFlags config roster record (Record.get record idColumn)).flags now).result with
      | error cause =>
        simp only [if_true, Placement.classified_of_error hr]
        exact ⟨table, hkept, .failed hid⟩
      | ok after =>
        simp only [if_true, Placement.classified_of_ok hr]
        obtain ⟨date, ⟨hdate, -⟩, ⟨n, row, hn, hrow, hafter⟩ | ⟨n, values, hn, hfree, hvalues, hafter⟩⟩ :=
          upsert_eq_ok htable hnull hr
        · exact ⟨_, hafter, .updated hop hany hdate hn hrow⟩
        · exact ⟨_, hafter, .inserted hop hany hdate hn hfree hvalues⟩

/-! ## What follows from the effects -/

namespace Effect

variable {config : LayoutConfig} {roster : Roster} {table after : Table} {record : Record} {operation : Operation}
  {now : Value} {flags : FlagSet} {given : Option FlagSet} {outcome : ClassificationOutcome}

/-- Flags that a classification gives are those that were resolved, and it was carried out. -/
theorem of_given (h : Effect config roster table record operation now after (some flags) outcome) :
    flags = resolvedFlags config roster record ∧ operation ≠ .delete ∧
      (outcome = .deleted ∨ outcome = .upserted) := by
  cases h with
  | cleared _ hop => exact ⟨rfl, hop, .inl rfl⟩
  | updated hop => exact ⟨rfl, hop, .inr rfl⟩
  | inserted hop => exact ⟨rfl, hop, .inr rfl⟩

/-- A classification that was not carried out leaves the table as it was. -/
theorem eq_of_undone (h : Effect config roster table record operation now after given outcome)
    (hdone : ¬(outcome = .deleted ∨ outcome = .upserted)) : after = table := by
  cases h with
  | skipped => rfl
  | failed => rfl
  | deleted => exact absurd (.inl rfl) hdone
  | cleared => exact absurd (.inl rfl) hdone
  | updated => exact absurd (.inr rfl) hdone
  | inserted => exact absurd (.inr rfl) hdone

/-- A classification of an article that names no identifier leaves the table as it was, unless it is not a number. -/
theorem eq_of_unnamed (h : Effect config roster table record operation now after given outcome)
    (hid : ∀ id, IdTerm.ofValue (Record.get record idColumn) ≠ .exactly id)
    (hnan : Record.get record idColumn ≠ .number (.float .nan)) : after = table := by
  have hwithout : table.without (.ofValue (Record.get record idColumn)) = table := by
    cases hterm : IdTerm.ofValue (Record.get record idColumn) with
    | exactly id => exact absurd hterm (hid id)
    | _ => rfl
  cases h with
  | skipped => rfl
  | failed => rfl
  | deleted => exact hwithout
  | cleared => exact hwithout
  | updated _ _ _ hn => exact absurd hn (hid _)
  | inserted _ _ _ hn =>
    rcases hn with hn | hn
    · exact absurd hn (hid _)
    · exact absurd hn hnan

/-- An identifier that a value means exactly is that of its new row. -/
theorem eq_of_exactly {value : Value} {n id : Int}
    (hn : IdTerm.ofValue value = .exactly n ∨ value = .number (.float .nan))
    (hid : IdTerm.ofValue value = .exactly id) : n = id := by
  rcases hn with hn | hn
  · exact IdTerm.exactly.inj (hn.symm.trans hid)
  · rw [hn] at hid
    cases hid

/-- A classification that was carried out puts a row with the resolved flags in for its article if there are any, and
otherwise takes the article's row out. -/
theorem table_of_done (h : Effect config roster table record operation now after given outcome)
    (hdone : outcome = .deleted ∨ outcome = .upserted) {id : Int}
    (hid : IdTerm.ofValue (Record.get record idColumn) = .exactly id) :
    (operation ≠ .delete ∧ (resolvedFlags config roster record).any = true ∧
        ∃ row, row.Carries (resolvedFlags config roster record) ∧ after = table.put id row) ∨
      ((operation = .delete ∨ (resolvedFlags config roster record).any = false) ∧ after = table.erase id) := by
  cases h with
  | skipped => simp at hdone
  | failed => simp at hdone
  | deleted _ hop => exact .inr ⟨.inl hop, by rw [hid, Table.without]⟩
  | cleared _ _ hany => exact .inr ⟨.inr hany, by rw [hid, Table.without]⟩
  | @updated n row date hop hany _ hn _ =>
    obtain rfl : n = id := IdTerm.exactly.inj (hn.symm.trans hid)
    exact .inl ⟨hop, hany, _, Roster.carries_flagged _ _ _, rfl⟩
  | @inserted n values date hop hany _ hn _ hvalues =>
    obtain rfl : n = id := eq_of_exactly hn hid
    exact .inl ⟨hop, hany, _, Roster.carries_newRow (rosterValues_eq_ok hvalues).1, rfl⟩

/-- With the flags that a classification gives, its article has a row if and only if it has a flag, and the row carries
the flags. -/
theorem row_iff (h : Effect config roster table record operation now after (some flags) outcome) {id : Int}
    (hid : IdTerm.ofValue (Record.get record idColumn) = .exactly id) :
    ((after.find? id).isSome = true ↔ flags.any = true) ∧ ∀ row, after.find? id = some row → row.Carries flags := by
  obtain ⟨hflags, hop, hdone⟩ := h.of_given
  rcases h.table_of_done hdone hid with ⟨-, hany, row, hcarries, rfl⟩ | ⟨hnone, rfl⟩
  · rw [Table.find?_put, if_pos rfl, hflags, hany]
    refine ⟨Iff.rfl, fun row' hrow => ?_⟩
    cases hrow
    exact hcarries
  · rw [Table.find?_erase, if_pos rfl, hflags, hnone.resolve_left hop]
    exact ⟨Iff.rfl, fun row hrow => by cases hrow⟩

/-- The rows of other articles stay as they are. -/
theorem find?_of_ne (h : Effect config roster table record operation now after given outcome)
    {id other : Int} (hid : IdTerm.ofValue (Record.get record idColumn) = .exactly id) (hne : other ≠ id) :
    after.find? other = table.find? other := by
  by_cases hdone : outcome = .deleted ∨ outcome = .upserted
  · rcases h.table_of_done hdone hid with ⟨-, -, row, -, rfl⟩ | ⟨-, rfl⟩
    · rw [Table.find?_put, if_neg hne]
    · rw [Table.find?_erase, if_neg hne]
  · rw [h.eq_of_undone hdone]

/-- **The holders after a classification that was carried out.** The article holds exactly the flags that were
resolved, none if it was deleted, and all others hold what they held. -/
theorem holders_of_done (h : Effect config roster table record operation now after given outcome)
    (hdone : outcome = .deleted ∨ outcome = .upserted) {id : Int}
    (hid : IdTerm.ofValue (Record.get record idColumn) = .exactly id) (flag : Flag) :
    after.holders flag =
      if operation ≠ .delete ∧ (resolvedFlags config roster record).get flag = true then insert id (table.holders flag)
      else (table.holders flag).erase id := by
  rcases h.table_of_done hdone hid with ⟨hop, -, row, hcarries, rfl⟩ | ⟨hnone, rfl⟩
  · rw [Table.holders_put, hcarries.holds_eq]
    simp only [ne_eq, hop, not_false_eq_true, true_and]
  · rw [Table.holders_erase, if_neg]
    rintro ⟨hop, hheld⟩
    have hany := FlagSet.any_eq_true_iff.mpr ⟨flag, hheld⟩
    rw [hnone.resolve_left hop] at hany
    cases hany

end Effect

end FrontPage
