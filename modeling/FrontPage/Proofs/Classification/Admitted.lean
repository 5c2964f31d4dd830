import FrontPage.Proofs.Classification.Capacity

/-!
# Tables that keep a limit

In a table that a flag's limit was kept in from the start, every row says which flags it holds and no more articles hold
the flag than the limit (`Table.Admits`). Calls that go by the limit and name their articles by whole numbers leave such
a table, whether they succeed or not (`Call.admits_after`): an article that no statement takes is not placed at all
(`Call.refusal_of_done`).
-/

namespace FrontPage

/-- Every row says of every flag whether it is held, and no more articles hold a flag than a limit, where zero stands
for any number. -/
structure Table.Admits (table : Table) (flag : Flag) (limit : Nat) : Prop where
  carries : ∀ id row, table.find? id = some row → ∃ flags : FlagSet, row.Carries flags
  fits : limit = 0 ∨ (table.holders flag).card ≤ limit

theorem Table.admits_empty (flag : Flag) (limit : Nat) : Table.empty.Admits flag limit where
  carries id row h := by cases h
  fits := .inr (Nat.zero_le limit)

section

variable {roster after : Roster} {table : Table} {record : Record} {id : Value} {flags : FlagSet} {now : Value}

/-- A removal that succeeds names its article by a value that can be in a table. -/
theorem refusal_of_remove (htable : roster.table = some table) (h : (remove roster id).result = .ok after) :
    refusal? id = none := by
  rw [remove] at h
  cases hd : roster.delete id with
  | error cause =>
    rw [hd] at h
    cases h
  | ok deleted => exact (Roster.named_eq_ok htable hd).1

/-- An article that is placed is named by a value that can be in a table. -/
theorem refusal_of_place (htable : roster.table = some table)
    (h : (place roster record id flags now).result = .ok after) : refusal? id = none := by
  rw [place] at h
  split at h
  · rw [upsert] at h
    cases hdate : lastUpdate record now with
    | error cause =>
      rw [hdate] at h
      cases h
    | ok date =>
      rw [hdate] at h
      cases hfound : roster.contains id with
      | error cause =>
        rw [hfound] at h
        cases h
      | ok found => exact (Roster.contains_eq_ok htable hfound).1
  · exact refusal_of_remove htable h

end

namespace Call

variable {call : Call} {table : Table} {flag : Flag} {limit : Nat} {id : Int}

/-- A call that was carried out is about an article that is named by a value that can be in a table. -/
theorem refusal_of_done (h : call.Done table) : refusal? (Record.get call.record idColumn) = none := by
  have htable : (call.roster table).table = some table := rfl
  have hid := holds_of_done h
  by_cases hop : call.operation = .delete
  · rw [Done, result, hop, classify_delete _ _ _ hid, classifyDeleted] at h
    cases hr : (remove (call.roster table) (Record.get call.record idColumn)).result with
    | ok after => exact refusal_of_remove htable hr
    | error cause =>
      rw [Placement.classified_of_error hr] at h
      simp at h
  · rw [Done, result, classify_of_saved _ _ _ hid hop, classifySaved] at h
    cases hr : (place (call.roster table) call.record (Record.get call.record idColumn)
        (resolveFlags call.config (call.roster table) call.record (Record.get call.record idColumn)).flags
        call.now).result with
    | ok after => exact refusal_of_place htable hr
    | error cause =>
      simp only [Placement.classified_of_error hr] at h
      simp at h

/-- **A call keeps the limit that it goes by**, and every row says what flags it holds. -/
theorem admits_after (hsees : call.Sees flag limit) (hin : call.outage .countFlags = none)
    (hid : Record.get call.record idColumn = .int id) (h : table.Admits flag limit) :
    (call.after table).Admits flag limit := by
  have hterm : call.term = .exactly id := by
    rw [term, hid]
    rfl
  by_cases hdone : call.Done table
  · refine ⟨fun other row hrow => ?_, ?_⟩
    · rcases (call.effect table).table_of_done hdone hterm with ⟨-, -, new, hcarries, hafter⟩ | ⟨-, hafter⟩
      · rw [hafter, Table.find?_put] at hrow
        split at hrow
        · cases hrow
          exact ⟨_, hcarries⟩
        · exact h.carries other row hrow
      · rw [hafter, Table.find?_erase] at hrow
        split at hrow
        · cases hrow
        · exact h.carries other row hrow
    · rcases h.fits with hzero | hfits
      · exact .inl hzero
      rcases Nat.eq_zero_or_pos limit with hzero | hpos
      · exact .inl hzero
      refine .inr ?_
      rw [(call.effect table).holders_of_done hdone hterm]
      split
      · next hheld =>
        have hlt := lt_of_resolved hsees hpos (countSucceeds_of_inOrder rfl hin (refusal_of_done hdone)) hheld.2
        rw [hterm, Roster.holders_exactly] at hlt
        rw [card_insert_eq]
        exact hlt
      · exact (Finset.card_le_card (Finset.erase_subset _ _)).trans hfits
  · rw [(call.effect table).eq_of_undone hdone]
    exact h

end Call

end FrontPage
