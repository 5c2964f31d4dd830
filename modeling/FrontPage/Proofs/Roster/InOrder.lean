import FrontPage.Proofs.Roster.Description

/-!
# Statements in order

A statement about an article that is in order succeeds on values that can be in a table: so do `Roster.contains`
(`Roster.contains_of_inOrder`), `Roster.delete`, `Roster.countFlag` and, for any flags, `Roster.updateFlags`.
-/

namespace FrontPage

namespace Roster

variable {roster after : Roster} {table : Table} {id : Value} {flags : FlagSet} {date : Value}

/-- A statement about an article that is in order goes on with the table and the article's term. -/
theorem named_of_inOrder (htable : roster.table = some table) {query : Query} (hin : roster.outage query = none)
    (hid : refusal? id = none) {α : Type} (f : Table → IdTerm → Except StatementError α) :
    (do
      let got ← roster.access query
      let term ← idTerm id
      f got term) = f table (.ofValue id) := by
  rw [bind_of_ok ((access_eq_ok_iff htable).mpr ⟨rfl, hin⟩), bind_of_ok (idTerm_eq_ok_iff.mpr ⟨hid, rfl⟩)]

/-- An identifier that cannot be in a table is refused, whatever statement it is for. -/
theorem named_eq_error (htable : roster.table = some table) {query : Query} (hin : roster.outage query = none)
    {cause : Refusal} (hid : refusal? id = some cause) {α : Type} (f : Table → IdTerm → Except StatementError α) :
    (do
      let got ← roster.access query
      let term ← idTerm id
      f got term) = .error (.refused cause) := by
  rw [bind_of_ok ((access_eq_ok_iff htable).mpr ⟨rfl, hin⟩), idTerm, Roster.bind, hid]
  rfl

theorem contains_of_inOrder (htable : roster.table = some table) (hin : roster.outage .contains = none)
    (hid : refusal? id = none) : roster.contains id = .ok (rowOf? table (.ofValue id)).isSome :=
  named_of_inOrder htable hin hid _

theorem delete_of_inOrder (htable : roster.table = some table) (hin : roster.outage .delete = none)
    (hid : refusal? id = none) : ∃ found after, roster.delete id = .ok (found, after) := by
  have h : roster.delete id = _ := named_of_inOrder htable hin hid _
  rw [h]
  cases rowOf? table (.ofValue id) with
  | none => exact ⟨false, roster, rfl⟩
  | some entry => exact ⟨true, _, rfl⟩

/-- With the statement in order, a flag is counted for any article whose identifier can be in a table. -/
theorem countFlag_of_inOrder (htable : roster.table = some table) {flag : Flag}
    (hin : roster.outage (.countFlag flag) = none) (hid : refusal? id = none) :
    roster.countFlag flag id = .ok (holders table (.ofValue id) flag) := by
  rw [← length_heldByOther]
  exact named_of_inOrder htable hin hid _

/-- The flags of an article are words, which any table takes, in the columns of flags. -/
theorem updateFlags_of_inOrder (htable : roster.table = some table) (hin : roster.outage .updateFlags = none)
    (hid : refusal? id = none) (hdate : refusal? date = none) (flags : FlagSet) :
    ∃ count after, roster.updateFlags id flags.record date = .ok (count, after) := by
  have hunknown : (flags.record.find? fun field => (Flag.ofColumn? field.1).isNone) = none := by
    rw [List.find?_eq_none]
    intro field hfield
    have hname : field.1 ∈ Flag.all.map Flag.column := flags.map_fst_record ▸ List.mem_map_of_mem hfield
    obtain ⟨flag, -, hflag⟩ := List.mem_map.mp hname
    simp [← hflag, flag.ofColumn?_column]
  have hwords : Flag.all.forM (fun flag => bind (Record.get flags.record flag.column)) = .ok () := by
    rw [forM_eq_ok_iff]
    intro flag _
    rw [Record.get, flags.get?_record]
    rfl
  have hgot := (access_eq_ok_iff htable).mpr ⟨rfl, hin⟩
  have hterm := idTerm_eq_ok_iff.mpr ⟨hid, rfl⟩
  rw [updateFlags, hin, hunknown]
  dsimp only
  rw [bind_of_ok hgot, bind_of_ok hwords, bind_of_ok (bind_eq_ok_iff_refusal.mpr hdate), bind_of_ok hterm]
  cases rowOf? table (.ofValue id) with
  | none => exact ⟨0, roster, rfl⟩
  | some entry => exact ⟨1, _, rfl⟩

end Roster

end FrontPage
