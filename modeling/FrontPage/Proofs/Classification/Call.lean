import FrontPage.Proofs.Classification.Resolution

/-!
# Calls

A call is a classification with everything it goes by apart from the table: the layouts in use, the article, the
operation, the time, and the statements that are out of order meanwhile. It leaves a table (`Call.after`) in one of the
ways that `Effect` lists (`Call.effect`).
-/

namespace FrontPage

/-- What a classification goes by besides the table. -/
structure Call where
  config : LayoutConfig
  record : Record
  operation : Operation
  now : Value
  outage : Query → Option String := fun _ => none

namespace Call

variable (call : Call) (table : Table)

/-- The roster that a call finds. -/
def roster : Roster := { table := some table, outage := call.outage }

/-- What a call leaves. -/
def result : Classified := classify call.config (call.roster table) call.record call.operation call.now

/-- The table that a call leaves. -/
def after : Table := (call.result table).roster.table.getD table

/-- The identifiers that the article of a call means. -/
def term : IdTerm := .ofValue (Record.get call.record idColumn)

/-- The call was carried out: the article was placed or removed. -/
def Done : Prop := (call.result table).outcome = .deleted ∨ (call.result table).outcome = .upserted

/-- The flags that a call resolves. -/
def resolved : FlagSet := resolvedFlags call.config (call.roster table) call.record

/-- What a call leaves is the roster that it found with another table. -/
theorem roster_result : (call.result table).roster = call.roster (call.after table) := by
  have htable : (call.roster table).table = some table := rfl
  obtain ⟨after, hroster, -⟩ := classify_effect call.config htable call.record call.operation call.now
  have hafter : call.after table = after := by
    rw [Call.after, result, hroster]
    rfl
  rw [hafter, result, hroster]
  rfl

/-- What a call does to the table is one of the effects. -/
theorem effect : Effect call.config (call.roster table) table call.record call.operation call.now (call.after table)
    (call.result table).flags (call.result table).outcome := by
  have htable : (call.roster table).table = some table := rfl
  obtain ⟨after, hroster, heffect⟩ := classify_effect call.config htable call.record call.operation call.now
  have hafter : call.after table = after := by
    rw [Call.after, result, hroster]
    rfl
  rw [hafter]
  exact heffect

variable {call table}

/-- Only an article with an identifier that holds is placed or removed. -/
theorem holds_of_done (h : call.Done table) : (Record.get call.record idColumn).holds = true := by
  by_contra hid
  have hskipped := classify_of_not_holds call.config (call.roster table) call.now (Bool.eq_false_iff.mpr hid)
    call.operation
  rw [Done, result, hskipped] at h
  simp at h

end Call

end FrontPage
