import FrontPage.Proofs.Classification.Overlap
import FrontPage.Proofs.Roster.Description
import Mathlib.Data.List.Induction

/-!
# Rows and the calls that made them

A run of calls begins with a table and leaves one (`Call.afterAll`); each call is a `Turn` at the table that it finds.
The row of an article is told by the turns alone (`row_of_history`): there is one if the article was upserted and not
deleted since (`Standing`), it describes the article as the turn did that put it in (`FirstUpsert`), and it has the
flags and the date of the latest turn that upserted the article (`LastUpsert`). An identifier that is not a number gets
a row of which the calls know nothing (`row_without_history`).
-/

namespace FrontPage

/-! ## What lasts -/

/-- Something that happened after the items before it, and that no later item ended. -/
def Lasting {α : Type} (happened : List α → α → Prop) (ends : α → Prop) (items : List α) (item : α) : Prop :=
  ∃ before later, items = before ++ item :: later ∧ happened before item ∧ ∀ other ∈ later, ¬ends other

/-- With one more item, what lasts is what has just happened, or has lasted and is not ended by it. -/
theorem lasting_concat_iff {α : Type} {happened : List α → α → Prop} {ends : α → Prop} {items : List α}
    {item last : α} :
    Lasting happened ends (items ++ [last]) item ↔
      (item = last ∧ happened items last) ∨ (Lasting happened ends items item ∧ ¬ends last) := by
  constructor
  · rintro ⟨before, later, hitems, hhappened, hlater⟩
    rcases List.eq_nil_or_concat' later with rfl | ⟨earlier, final, rfl⟩
    · obtain ⟨rfl, hlast⟩ := List.append_inj' hitems rfl
      obtain rfl : last = item := List.singleton_inj.mp hlast
      exact .inl ⟨rfl, hhappened⟩
    · have hsplit : items ++ [last] = (before ++ item :: earlier) ++ [final] := by simpa using hitems
      obtain ⟨rfl, hlast⟩ := List.append_inj' hsplit rfl
      obtain rfl : last = final := List.singleton_inj.mp hlast
      refine .inr ⟨⟨before, earlier, rfl, hhappened, fun other ho => ?_⟩, ?_⟩
      · exact hlater other (List.mem_append_left _ ho)
      · exact hlater last (List.mem_append_right _ (List.mem_singleton_self last))
  · rintro (⟨rfl, hhappened⟩ | ⟨⟨before, later, rfl, hhappened, hlater⟩, hends⟩)
    · exact ⟨items, [], rfl, hhappened, nofun⟩
    · refine ⟨before, later ++ [last], by simp, hhappened, fun other ho => ?_⟩
      rcases List.mem_append.mp ho with ho | ho
      · exact hlater other ho
      · rw [List.mem_singleton.mp ho]
        exact hends

/-! ## Turns -/

/-- The table after some calls, one after the other. -/
def Call.afterAll (calls : List Call) (table : Table) : Table := calls.foldl (fun table call => call.after table) table

theorem Call.afterAll_concat (calls : List Call) (call : Call) (table : Table) :
    afterAll (calls ++ [call]) table = call.after (afterAll calls table) := by
  rw [afterAll, List.foldl_append]
  rfl

/-- A call of a run, and the table that it finds. -/
structure Turn where
  call : Call
  table : Table

namespace Turn

/-- What the call gives besides the table. -/
def outcome (turn : Turn) : ClassificationOutcome := (turn.call.result turn.table).outcome

/-- The flags that the call gives. -/
def flags (turn : Turn) : Option FlagSet := (turn.call.result turn.table).flags

/-- The date of the last update that the call writes: the whole part of the record's unless that is zero or missing,
and otherwise the time of day. -/
def date (turn : Turn) : Value := (Record.get turn.call.record Column.lastUpdateDate.name).wholeOr turn.call.now

/-- The call is on an article, and wrote its row. -/
def Upserts (turn : Turn) (id : Int) : Prop := turn.call.term = .exactly id ∧ turn.outcome = .upserted

/-- The call is on an article, and removed what row it had. -/
def Deletes (turn : Turn) (id : Int) : Prop := turn.call.term = .exactly id ∧ turn.outcome = .deleted

/-- The row has the flags that the call gave, and the date that it wrote. -/
def Wrote (turn : Turn) (row : Row) : Prop :=
  ∃ flags, turn.flags = some flags ∧ row.Carries flags ∧
    row.get .lastUpdateDate = Column.lastUpdateDate.cell turn.date

/-- The turns of a run. -/
def all : Table → List Call → List Turn
  | _, [] => []
  | table, call :: rest => ⟨call, table⟩ :: all (call.after table) rest

theorem all_concat (table : Table) (calls : List Call) (call : Call) :
    all table (calls ++ [call]) = all table calls ++ [⟨call, Call.afterAll calls table⟩] := by
  induction calls generalizing table with
  | nil => rfl
  | cons first rest ih => exact congrArg _ (ih (first.after table))

end Turn

/-- The article was upserted, and not deleted since. -/
def Standing (turns : List Turn) (id : Int) : Prop :=
  ∃ turn, Lasting (fun _ turn => turn.Upserts id) (·.Deletes id) turns turn

/-- The turn was the first to upsert the article since it was deleted, if it ever was. -/
def FirstUpsert (turns : List Turn) (id : Int) (turn : Turn) : Prop :=
  Lasting (fun before turn => turn.Upserts id ∧ ¬Standing before id) (·.Deletes id) turns turn

/-- The turn was the latest to upsert the article, which was not deleted since. -/
def LastUpsert (turns : List Turn) (id : Int) (turn : Turn) : Prop :=
  Lasting (fun _ turn => turn.Upserts id) (fun turn => turn.Upserts id ∨ turn.Deletes id) turns turn

section

variable {turns : List Turn} {turn : Turn} {id : Int}

theorem standing_concat_iff :
    Standing (turns ++ [turn]) id ↔ turn.Upserts id ∨ (Standing turns id ∧ ¬turn.Deletes id) := by
  simp only [Standing, lasting_concat_iff]
  constructor
  · rintro ⟨other, ⟨-, h⟩ | ⟨h, hends⟩⟩
    · exact .inl h
    · exact .inr ⟨⟨other, h⟩, hends⟩
  · rintro (h | ⟨⟨other, h⟩, hends⟩)
    · exact ⟨turn, .inl ⟨rfl, h⟩⟩
    · exact ⟨other, .inr ⟨h, hends⟩⟩

/-- A turn does not both upsert and delete. -/
theorem Turn.Upserts.not_deletes (h : turn.Upserts id) : ¬turn.Deletes id := by
  rintro ⟨-, hdeleted⟩
  rw [h.2] at hdeleted
  cases hdeleted

end

/-! ## What a turn does to a row -/

/-- What a turn leaves of an article's row. -/
inductive Turn.RowStep (turn : Turn) (id : Int) : Option Row → Option Row → Prop
  /-- The call is on another article, or was not carried out. -/
  | kept {row : Option Row} (hupserts : ¬turn.Upserts id) (hdeletes : ¬turn.Deletes id) : RowStep turn id row row
  | deleted {row : Option Row} (hdeletes : turn.Deletes id) : RowStep turn id row none
  | inserted {row : Row} (hupserts : turn.Upserts id) (hwrote : turn.Wrote row)
      (hdescribes : row.Describes turn.call.record turn.date) : RowStep turn id none (some row)
  /-- A row that is written again describes what it described before. -/
  | updated {old row : Row} (hupserts : turn.Upserts id) (hwrote : turn.Wrote row)
      (hdescribes : ∀ record date, old.Describes record date → row.Describes record date) :
      RowStep turn id (some old) (some row)

namespace Turn

/-- A call on another article keeps a row. -/
theorem rowStep_of_ne {turn : Turn} {id : Int} (hnumbered : turn.call.IsNumbered) (hne : turn.call.term ≠ .exactly id) :
    turn.RowStep id (turn.table.find? id) ((turn.call.after turn.table).find? id) := by
  have hsame : (turn.call.after turn.table).find? id = turn.table.find? id := by
    cases hterm : turn.call.term with
    | exactly other =>
      refine (turn.call.effect turn.table).find?_of_ne hterm fun h => hne ?_
      rw [hterm, h]
    | _ =>
      rw [(turn.call.effect turn.table).eq_of_unnamed (fun other ho => ?_) hnumbered]
      rw [Call.term, ho] at hterm
      cases hterm
  rw [hsame]
  exact .kept (fun h => hne h.1) fun h => hne h.1

/-- **What a turn does to a row.** -/
theorem rowStep (turn : Turn) (hnumbered : turn.call.IsNumbered) (id : Int) :
    turn.RowStep id (turn.table.find? id) ((turn.call.after turn.table).find? id) := by
  by_cases hterm : turn.call.term = .exactly id
  swap
  · exact rowStep_of_ne hnumbered hterm
  have heffect := turn.call.effect turn.table
  have hgone : (turn.table.without (.ofValue (Record.get turn.call.record idColumn))).find? id = none := by
    rw [show IdTerm.ofValue _ = _ from hterm, Table.without, Table.find?_erase, if_pos rfl]
  have hundone (hout : turn.outcome ≠ .upserted) (hout' : turn.outcome ≠ .deleted) :
      turn.RowStep id (turn.table.find? id) (turn.table.find? id) :=
    .kept (fun h => hout h.2) fun h => hout' h.2
  rw [outcome] at hundone
  generalize hafter : turn.call.after turn.table = after at heffect ⊢
  generalize hgiven : (turn.call.result turn.table).flags = given at heffect
  generalize hout : (turn.call.result turn.table).outcome = out at heffect hundone
  cases heffect with
  | skipped => exact hundone (by decide) (by decide)
  | failed => exact hundone (by decide) (by decide)
  | deleted =>
    rw [hgone]
    exact .deleted ⟨hterm, hout⟩
  | cleared =>
    rw [hgone]
    exact .deleted ⟨hterm, hout⟩
  | @updated n old date _ _ hdate hn hrow =>
    obtain rfl : n = id := IdTerm.exactly.inj (hn.symm.trans hterm)
    rw [hrow, Table.find?_put, if_pos rfl]
    have hwritten : date = turn.date := lastUpdate_eq_ok hdate
    rw [hwritten]
    exact .updated ⟨hterm, hout⟩ ⟨_, hgiven, Roster.carries_flagged _ _ _, Roster.flagged_lastUpdateDate _ _ _⟩
      fun _ _ h => Roster.describes_flagged h _ _
  | @inserted n values date _ _ hdate hn hfree hvalues =>
    obtain rfl : n = id := Effect.eq_of_exactly hn hterm
    rw [hfree, Table.find?_put, if_pos rfl]
    have hwritten : date = turn.date := lastUpdate_eq_ok hdate
    rw [hwritten] at hvalues
    exact .inserted ⟨hterm, hout⟩
      ⟨_, hgiven, Roster.carries_newRow (rosterValues_eq_ok hvalues).1, Roster.newRow_lastUpdateDate hvalues⟩
      (Roster.describes_newRow hvalues)

end Turn

/-! ## What a run leaves of a row -/

/-- The row of an article, or that there is none, is what the turns tell. -/
structure ToldBy (turns : List Turn) (id : Int) (found : Option Row) : Prop where
  standing : found.isSome = true ↔ Standing turns id
  described : ∀ row, found = some row → ∃ first, FirstUpsert turns id first ∧
    row.Describes first.call.record first.date
  written : ∀ row, found = some row → ∃ last, LastUpsert turns id last ∧ last.Wrote row

/-- One more turn tells what it leaves of the row. -/
theorem ToldBy.concat {turns : List Turn} {turn : Turn} {id : Int} {found left : Option Row} (h : ToldBy turns id found)
    (hstep : turn.RowStep id found left) : ToldBy (turns ++ [turn]) id left := by
  have hwritten {row : Row} (hupserts : turn.Upserts id) (hwrote : turn.Wrote row) :
      ∃ last, LastUpsert (turns ++ [turn]) id last ∧ last.Wrote row :=
    ⟨turn, lasting_concat_iff.mpr (.inl ⟨rfl, hupserts⟩), hwrote⟩
  cases hstep with
  | kept hupserts hdeletes =>
    refine ⟨?_, fun row hrow => ?_, fun row hrow => ?_⟩
    · rw [h.standing, standing_concat_iff]
      simp [hupserts, hdeletes]
    · obtain ⟨first, hfirst, hdescribes⟩ := h.described row hrow
      exact ⟨first, lasting_concat_iff.mpr (.inr ⟨hfirst, hdeletes⟩), hdescribes⟩
    · obtain ⟨last, hlast, hwrote⟩ := h.written row hrow
      exact ⟨last, lasting_concat_iff.mpr (.inr ⟨hlast, not_or.mpr ⟨hupserts, hdeletes⟩⟩), hwrote⟩
  | deleted hdeletes =>
    refine ⟨?_, nofun, nofun⟩
    rw [standing_concat_iff]
    have hupserts : ¬turn.Upserts id := fun hupserts => hupserts.not_deletes hdeletes
    simp [hupserts, hdeletes]
  | @inserted row hupserts hwrote hdescribes =>
    have habsent : ¬Standing turns id := by
      rw [← h.standing]
      simp
    refine ⟨?_, fun other ho => ?_, fun other ho => ?_⟩
    · simp [standing_concat_iff, hupserts]
    · obtain rfl := Option.some.inj ho
      exact ⟨turn, lasting_concat_iff.mpr (.inl ⟨rfl, hupserts, habsent⟩), hdescribes⟩
    · obtain rfl := Option.some.inj ho
      exact hwritten hupserts hwrote
  | @updated old row hupserts hwrote hdescribes =>
    refine ⟨?_, fun other ho => ?_, fun other ho => ?_⟩
    · simp [standing_concat_iff, hupserts]
    · obtain rfl := Option.some.inj ho
      obtain ⟨first, hfirst, hold⟩ := h.described old rfl
      exact ⟨first, lasting_concat_iff.mpr (.inr ⟨hfirst, hupserts.not_deletes⟩), hdescribes _ _ hold⟩
    · obtain rfl := Option.some.inj ho
      exact hwritten hupserts hwrote

/-- What a run leaves of a row is what its turns tell. -/
theorem toldBy_afterAll {calls : List Call} (hnumbered : ∀ call ∈ calls, call.IsNumbered) (id : Int) :
    ToldBy (Turn.all .empty calls) id ((Call.afterAll calls .empty).find? id) := by
  induction calls using List.reverseRecOn with
  | nil =>
    refine ⟨?_, nofun, nofun⟩
    have hnothing : ¬Standing (Turn.all .empty []) id := by
      rintro ⟨turn, before, later, hturns, -⟩
      exact absurd hturns.symm (List.append_ne_nil_of_right_ne_nil _ (List.cons_ne_nil _ _))
    exact ⟨nofun, fun h => absurd h hnothing⟩
  | append_singleton calls call ih =>
    have hrest := ih fun other ho => hnumbered other (List.mem_append_left _ ho)
    have hcall := hnumbered call (List.mem_append_right _ (List.mem_singleton_self call))
    rw [Turn.all_concat, Call.afterAll_concat]
    exact hrest.concat (Turn.rowStep ⟨call, Call.afterAll calls .empty⟩ hcall id)

/-- **The row of an article is told by the calls.** There is one if the article was upserted and not deleted since. It
describes the article as the first upsert since then did, and has the flags and the date of the latest. Turns that fail
or are skipped leave the table as it was. -/
theorem row_of_history {calls : List Call} (hnumbered : ∀ call ∈ calls, call.IsNumbered) (id : Int) :
    let turns := Turn.all .empty calls
    let found := (Call.afterAll calls .empty).find? id
    (found.isSome = true ↔ Standing turns id) ∧
    (∀ row, found = some row →
      (∃ first, FirstUpsert turns id first ∧ row.Describes first.call.record first.date) ∧
        ∃ last, LastUpsert turns id last ∧ last.Wrote row) ∧
    ∀ turn ∈ turns, turn.outcome = .error ∨ turn.outcome = .skipped → turn.call.after turn.table = turn.table := by
  intro turns found
  have htold := toldBy_afterAll hnumbered id
  refine ⟨htold.standing, fun row hrow => ⟨htold.described row hrow, htold.written row hrow⟩, ?_⟩
  intro turn _ hout
  apply (turn.call.effect turn.table).eq_of_undone
  rw [← Turn.outcome]
  rcases hout with hout | hout
  · simp [hout]
  · simp [hout]

/-- An article is put in, cannot be written for once, and is written again when its record has other texts and no date;
another one is deleted before. -/
def rewrittenCalls : List Call :=
  [{ config := .empty, record := [("article_id", .int 6), ("highlight1_flag", .text "Yes")], operation := .create,
     now := .int 1 },
   { config := .empty, operation := .create, now := .int 2, record :=
      [("article_id", .int 5), ("highlight1_flag", .text "Yes"), ("heading", .text "Old"),
       ("last_update_date", .text "3.7")] },
   { config := .empty, record := [("article_id", .int 6)], operation := .delete, now := .int 4 },
   { config := .empty, record := [("article_id", .int 5), ("highlight3_flag", .text "yes")], operation := .update,
     now := .int 5, outage := fun _ => some "locked" },
   { config := .empty, operation := .update, now := .int 9, record :=
      [("article_id", .text " 5"), ("highlight2_flag", .text "yes"), ("heading", .text "New"),
       ("last_update_date", .int 0)] }]

/-- The row has its first heading and its last date. -/
theorem row_of_history_rewritten :
    (∀ call ∈ rewrittenCalls, call.IsNumbered) ∧ (Call.afterAll rewrittenCalls .empty).find? 6 = none ∧
    ∃ row, (Call.afterAll rewrittenCalls .empty).find? 5 = some row ∧
      (row.get .heading, row.get .creationDate, row.get .lastUpdateDate) = (.text "Old", .int 3, .int 9) ∧
      (∃ first, FirstUpsert (Turn.all .empty rewrittenCalls) 5 first ∧
        row.Describes first.call.record first.date) ∧
      ∃ last, LastUpsert (Turn.all .empty rewrittenCalls) 5 last ∧ last.Wrote row := by
  have hnumbered : ∀ call ∈ rewrittenCalls, call.IsNumbered := by
    simp [rewrittenCalls, Call.IsNumbered, Record.get, Record.get?, idColumn]
  have hrun : (Call.afterAll rewrittenCalls .empty).find? 6 = none ∧
      ((Call.afterAll rewrittenCalls .empty).find? 5).map
        (fun row => (row.get .heading, row.get .creationDate, row.get .lastUpdateDate)) =
          some (.text "Old", .int 3, .int 9) := by decide +kernel
  obtain ⟨row, hrow, hcells⟩ := Option.map_eq_some_iff.mp hrun.2
  exact ⟨hnumbered, hrun.1, row, hrow, hcells, (row_of_history hnumbered 5).2.1 row hrow⟩

/-- An article whose identifier is not a number is put in, and then deleted. -/
def unnumberedCalls : List Call :=
  [{ config := .empty, record := [("article_id", .number (.float .nan)), ("highlight1_flag", .text "Yes")],
     operation := .create, now := .int 3 },
   { config := .empty, record := [("article_id", .number (.float .nan))], operation := .delete, now := .int 4 }]

/-- **An identifier that is not a number** gets a row of an article that was never upserted, and deleting it leaves the
row there. -/
theorem row_without_history :
    (Turn.all .empty unnumberedCalls).map Turn.outcome = [.upserted, .deleted] ∧
    ((Call.afterAll unnumberedCalls .empty).find? 1).isSome = true ∧
    ¬Standing (Turn.all .empty unnumberedCalls) 1 := by
  have hrun : (Turn.all .empty unnumberedCalls).map Turn.outcome = [.upserted, .deleted] ∧
      ((Call.afterAll unnumberedCalls .empty).find? 1).isSome = true ∧
      ∀ turn ∈ Turn.all .empty unnumberedCalls, turn.call.term ≠ .exactly 1 := by decide +kernel
  refine ⟨hrun.1, hrun.2.1, ?_⟩
  rintro ⟨turn, before, later, hturns, ⟨hterm, -⟩, -⟩
  exact hrun.2.2 turn (hturns ▸ List.mem_append_right _ List.mem_cons_self) hterm

end FrontPage
