import FrontPage.Proofs.Classification.Admitted
import FrontPage.Proofs.Classification.Passes
import FrontPage.Proofs.Roster.InOrder

/-!
# Calls that are made again

An article does not count for itself, so right after a call that gave flags the same flags are resolved again
(`Call.resolved_again`), and the article holds them already. Made again, the call gives these flags unless a statement
fails, which changes nothing, and it leaves all flags as they are; the table as a whole it leaves as it is unless another
date of the last update is written (`classification_repeats`, `repeats_moved`).
-/

namespace FrontPage

/-! ## Dates -/

/-- With one time of day or another, the date of the last update is found or not. -/
theorem lastUpdate_later {record : Record} {now date : Value} (h : lastUpdate record now = .ok date) (later : Value) :
    lastUpdate record later = .ok ((Record.get record Column.lastUpdateDate.name).wholeOr later) := by
  obtain ⟨whole, hwhole, -⟩ := bind_eq_ok_iff.mp h
  refine bind_eq_ok_iff.mpr ⟨whole, hwhole, ?_⟩
  rw [Value.wholeOr, Column.name, Value.wholePart?_of_whole? hwhole]
  cases whole <;> rfl

/-- A whole part that is not zero stands whatever the other value. -/
theorem Value.wholeOr_of_ne_zero {value : Value} {n : Int} (h : value.wholePart? = some n) (hn : n ≠ 0)
    (other : Value) : value.wholeOr other = .int n := by
  rw [wholeOr, h]
  exact if_neg hn

/-- The whole part of a value stands in whatever other value's place, or it is the other value. -/
theorem Value.wholeOr_cases (value now later : Value) :
    value.wholeOr later = value.wholeOr now ∨ value.wholeOr later = later := by
  cases hwhole : value.wholePart? with
  | none =>
    right
    rw [wholeOr, hwhole]
  | some n =>
    by_cases hn : n = 0
    · right
      rw [wholeOr, hwhole]
      exact if_pos hn
    · left
      rw [wholeOr_of_ne_zero hwhole hn, wholeOr_of_ne_zero hwhole hn]

/-! ## Placing -/

section

variable {roster after : Roster} {table : Table} {record : Record} {id : Value} {flags : FlagSet} {now date : Value}

/-- With its statement in order, an article is removed. -/
theorem remove_of_inOrder (htable : roster.table = some table) (hin : roster.outage .delete = none)
    (hid : refusal? id = none) : ∃ after, (remove roster id).result = .ok after := by
  obtain ⟨found, after, hdelete⟩ := Roster.delete_of_inOrder htable hin hid
  rw [remove, hdelete]
  exact ⟨after, rfl⟩

/-- With the statements in order, the flags of an article that has its row are written. -/
theorem upsert_of_inOrder (htable : roster.table = some table) (hcontains : roster.outage .contains = none)
    (hupdate : roster.outage .updateFlags = none) (hid : refusal? id = none)
    (hrow : (Roster.rowOf? table (.ofValue id)).isSome = true) (hdate : lastUpdate record now = .ok date)
    (hstorable : refusal? date = none) : ∃ after, (upsert roster record id flags now).result = .ok after := by
  obtain ⟨count, after, hupdated⟩ := Roster.updateFlags_of_inOrder htable hupdate hid hstorable flags
  rw [upsert, hdate]
  simp only [Roster.contains_of_inOrder htable hcontains hid, hrow, hupdated]
  exact ⟨after, rfl⟩

end

namespace Effect

variable {config : LayoutConfig} {roster : Roster} {table after : Table} {record : Record} {operation : Operation}
  {now : Value} {flags : FlagSet} {outcome : ClassificationOutcome} {id : Int}

/-- A classification of an article that is saved fails and changes nothing if it gives no flags. -/
theorem eq_of_notGiven (h : Effect config roster table record operation now after none outcome)
    (hid : (Record.get record idColumn).holds = true) (hop : operation ≠ .delete) :
    outcome = .error ∧ after = table := by
  cases h with
  | skipped hskipped =>
    rw [hid] at hskipped
    cases hskipped
  | failed => exact ⟨rfl, rfl⟩
  | deleted _ hdelete => exact absurd hdelete hop

/-- What the article's row says of a flag after a classification that gave flags, if it has a row then. -/
theorem cell_of_given (h : Effect config roster table record operation now after (some flags) outcome)
    (hid : IdTerm.ofValue (Record.get record idColumn) = .exactly id) (flag : Flag) :
    (after.find? id).map (fun row => row.get (.flag flag)) =
      if flags.any then some (.text (Flag.word (flags.get flag))) else none := by
  obtain ⟨hsome, hcarries⟩ := h.row_iff hid
  cases hrow : after.find? id with
  | some row =>
    rw [hrow] at hsome
    rw [if_pos (hsome.mp rfl), Option.map_some, hcarries row hrow flag]
  | none =>
    rw [hrow] at hsome
    rw [if_neg fun hany => Bool.false_ne_true (hsome.mpr hany)]
    rfl

end Effect

/-- Flags are resolved alike where as many others hold each of them. -/
theorem resolvedFlags_eq_of_holders {config : LayoutConfig} {roster other : Roster} {table between : Table}
    {record : Record} (htable : roster.table = some table) (hother : other.table = some between)
    (hcounts : ∀ flag, CountSucceeds config roster record flag) (hagain : ∀ flag, CountSucceeds config other record flag)
    (hsame : ∀ flag, Roster.holders between (.ofValue (Record.get record idColumn)) flag =
      Roster.holders table (.ofValue (Record.get record idColumn)) flag) :
    resolvedFlags config other record = resolvedFlags config roster record := by
  refine Slots.ext_get fun flag => ?_
  cases hclaim : flag.claim config record with
  | settled held => rw [resolvedFlags_of_settled other hclaim, resolvedFlags_of_settled roster hclaim]
  | limited layout =>
    rw [resolvedFlags_of_limited hother hclaim (hagain flag), resolvedFlags_of_limited htable hclaim (hcounts flag),
      hsame flag]

/-! ## Calls -/

namespace Call

/-- A call made again: as an operation, at a time and with statements out of order of its own. -/
def again (call : Call) (operation : Operation) (now : Value) (outage : Query → Option String) : Call :=
  { call with operation := operation, now := now, outage := outage }

/-- All flags can be counted. -/
def Counts (call : Call) (table : Table) : Prop :=
  ∀ flag, CountSucceeds call.config (call.roster table) call.record flag

/-- The statements that write flags to a row or remove it are in order, and the time of day can be in a table. -/
structure CanWrite (call : Call) : Prop where
  contains : call.outage .contains = none
  updateFlags : call.outage .updateFlags = none
  delete : call.outage .delete = none
  now : refusal? call.now = none

variable {call : Call} {table : Table} {id : Int} {flags : FlagSet}

/-- A call gives the flags that it resolves if and only if it places its article. -/
theorem given_iff (hid : (Record.get call.record idColumn).holds = true) (hop : call.operation ≠ .delete) :
    (call.result table).flags = some (call.resolved table) ↔
      ∃ after, (place (call.roster table) call.record (Record.get call.record idColumn) (call.resolved table)
        call.now).result = .ok after := by
  rw [result, classify_of_saved _ _ _ hid hop, classifySaved, resolved, resolvedFlags]
  cases hplace : (place (call.roster table) call.record (Record.get call.record idColumn)
      (resolveFlags call.config (call.roster table) call.record (Record.get call.record idColumn)).flags
      call.now).result with
  | ok after =>
    simp only [Placement.classified_of_ok hplace]
    exact iff_of_true trivial ⟨after, rfl⟩
  | error cause =>
    simp only [Placement.classified_of_error hplace]
    constructor
    · intro h
      cases h
    · rintro ⟨_, h⟩
      cases h

/-- After a call that saved its article, the article holds the flags that were resolved. -/
theorem holders_saved (hdone : call.Done table) (hop : call.operation ≠ .delete) (hid : call.term = .exactly id)
    (flag : Flag) : (call.after table).holders flag =
      if (call.resolved table).get flag = true then insert id (table.holders flag)
      else (table.holders flag).erase id := by
  rw [(call.effect table).holders_of_done hdone hid]
  exact if_congr (and_iff_right hop) rfl rfl

/-- A call changes nothing about how many others hold a flag. -/
theorem holders_after (hdone : call.Done table) (hid : call.term = .exactly id) (flag : Flag) :
    Roster.holders (call.after table) call.term flag = Roster.holders table call.term flag := by
  rw [hid, Roster.holders_exactly, Roster.holders_exactly, (call.effect table).holders_of_done hdone hid]
  split
  · rw [Finset.erase_insert_eq_erase]
  · rw [Finset.erase_idem]

variable {operation : Operation} {now : Value} {outage : Query → Option String}

/-- **The flags are resolved again** that were resolved before. -/
theorem resolved_again (hdone : call.Done table) (hid : call.term = .exactly id) (hcounts : call.Counts table)
    (hagain : (call.again operation now outage).Counts (call.after table)) :
    (call.again operation now outage).resolved (call.after table) = call.resolved table :=
  resolvedFlags_eq_of_holders rfl rfl hcounts hagain (holders_after hdone hid)

/-- An article holds after a call that is made again what it held before. -/
theorem holders_again (hdone : call.Done table) (hop : call.operation ≠ .delete) (hid : call.term = .exactly id)
    (hagain : operation ≠ .delete)
    (hresolved : (call.again operation now outage).resolved (call.after table) = call.resolved table) (flag : Flag) :
    ((call.again operation now outage).after (call.after table)).holders flag = (call.after table).holders flag := by
  by_cases hdone' : (call.again operation now outage).Done (call.after table)
  · rw [holders_saved hdone' hagain hid, holders_saved hdone hop hid, hresolved]
    split
    · rw [Finset.insert_idem]
    · rw [Finset.erase_idem]
  · rw [((call.again operation now outage).effect (call.after table)).eq_of_undone hdone']

/-- Made again, a call that can write gives the flags that it gave. -/
theorem given_again (hid : call.term = .exactly id) (hflags : (call.result table).flags = some flags)
    (hagain : operation ≠ .delete) (hwrite : (call.again operation now outage).CanWrite)
    (hresolved : (call.again operation now outage).resolved (call.after table) = call.resolved table) :
    ((call.again operation now outage).result (call.after table)).flags = some flags := by
  have heffect := call.effect table
  rw [hflags] at heffect
  obtain ⟨hgiven, hop, hdone⟩ := heffect.of_given
  have hholds := holds_of_done hdone
  have hrefusal := refusal_of_done hdone
  have hnull : Record.get call.record idColumn ≠ .null := by
    intro hn
    rw [hn] at hholds
    cases hholds
  obtain rfl : flags = call.resolved table := hgiven
  obtain ⟨after, hplaced⟩ := (given_iff hholds hop).mp hflags
  rw [← hresolved]
  apply (given_iff ?_ ?_).mpr
  · rw [hresolved]
    cases hany : (call.resolved table).any with
    | false =>
      rw [place, hany]
      exact remove_of_inOrder rfl hwrite.delete hrefusal
    | true =>
      rw [place, hany] at hplaced ⊢
      obtain ⟨date, ⟨hdate, hstorable⟩, -⟩ := upsert_eq_ok rfl hnull hplaced
      have hrow : (Roster.rowOf? (call.after table) call.term).isSome = true := by
        rw [hid, Roster.rowOf?, Option.isSome_map, (heffect.row_iff hid).1]
        exact hany
      refine upsert_of_inOrder rfl hwrite.contains hwrite.updateFlags hrefusal hrow (lastUpdate_later hdate now) ?_
      rcases Value.wholeOr_cases (Record.get call.record Column.lastUpdateDate.name) call.now now with hsame | hnow
      · rw [hsame, ← lastUpdate_eq_ok hdate]
        exact hstorable
      · rw [hnow]
        exact hwrite.now
  · exact hholds
  · exact hagain

end Call

/-- **A classification that is made again changes no flag.** Right after a call that gave flags, whether it is made as a
creation or an update, it gives the same flags or else fails and changes nothing; it gives them if the statements that it
needs are in order. Every row says of every flag what it said, and the table stays as it is if the time is the same or
the record's own date of the last update has a whole part other than zero. -/
theorem classification_repeats (call : Call) (table : Table) {id : Int} (hid : call.term = .exactly id)
    {flags : FlagSet} (hflags : (call.result table).flags = some flags) (hcounts : call.Counts table)
    {operation : Operation} (hop : operation ≠ .delete) (now : Value) (outage : Query → Option String)
    (hagain : (call.again operation now outage).Counts (call.after table)) :
    let first := call.after table
    let again := call.again operation now outage
    ((again.result first).flags = some flags ∨
      (again.result first).flags = none ∧ (again.result first).outcome = .error ∧ again.after first = first) ∧
    (again.CanWrite → (again.result first).flags = some flags) ∧
    (∀ (other : Int) (flag : Flag), ((again.after first).find? other).map (fun row => row.get (.flag flag)) =
      (first.find? other).map (fun row => row.get (.flag flag))) ∧
    ((now = call.now ∨ ∃ n, (Record.get call.record Column.lastUpdateDate.name).wholePart? = some n ∧ n ≠ 0) →
      again.after first = first) := by
  intro first again
  have heffect := call.effect table
  rw [hflags] at heffect
  obtain ⟨hgiven, hsaved, hdone⟩ := heffect.of_given
  have hresolved := Call.resolved_again hdone hid hcounts hagain
  have hholds := Call.holds_of_done hdone
  have hor : (again.result first).flags = some flags ∨
      (again.result first).flags = none ∧ (again.result first).outcome = .error ∧ again.after first = first := by
    have hsecond := again.effect first
    cases hsome : (again.result first).flags with
    | none =>
      rw [hsome] at hsecond
      exact .inr ⟨rfl, hsecond.eq_of_notGiven hholds hop⟩
    | some flags' =>
      rw [hsome] at hsecond
      left
      rw [hsecond.of_given.1, hgiven]
      exact congrArg some hresolved
  refine ⟨hor, fun hwrite => Call.given_again hid hflags hop hwrite hresolved, ?_, ?_⟩
  · intro other flag
    rcases hor with hsome | ⟨-, -, hsame⟩
    · by_cases hother : other = id
      · have hsecond := again.effect first
        rw [hsome] at hsecond
        rw [hother, hsecond.cell_of_given hid, heffect.cell_of_given hid]
      · rw [(again.effect first).find?_of_ne hid hother]
    · rw [hsame]
  · intro hdate
    refine (again.effect first).eq_of_isWritten hid (Call.holders_again hdone hsaved hid hop hresolved) ?_
    intro row hrow
    obtain ⟨flags', date, hany, hcarries, hwritten, hcell⟩ := heffect.isWritten hdone hid hrow
    refine ⟨flags', date, hany, hcarries, ?_, hcell⟩
    rcases hdate with rfl | ⟨n, hwhole, hn⟩
    · exact hwritten
    · have hsame := (Value.wholeOr_of_ne_zero hwhole hn now).trans (Value.wholeOr_of_ne_zero hwhole hn call.now).symm
      rw [lastUpdate_eq_ok hwritten, ← hsame]
      exact lastUpdate_later hwritten now

/-- An article that wants a highlight and a group with room for one article each, and says when it was last updated. -/
def datedCall (date : Value) : Call where
  config := ⟨[{ name := "Highlight1", limit := .int 1 }, { name := "ArticleGroup1", limit := .int 1 }]⟩
  record := [("article_id", .int 5), ("highlight1_flag", .text "Yes"), ("last_update_date", date)]
  operation := .create
  now := .int 0

/-- Where another article holds the highlight, the article gets the group, and keeps it and its row when the call is made
again later. -/
theorem classification_repeats_later : ∃ flags, ((datedCall (.int 3)).result homeTable).flags = some flags ∧
    flags.get (.highlight 0) = false ∧ flags.get (.articleGroup 0) = true ∧
    (((datedCall (.int 3)).again .update (.int 9) fun _ => none).result
      ((datedCall (.int 3)).after homeTable)).flags = some flags ∧
    ((datedCall (.int 3)).again .update (.int 9) fun _ => none).after ((datedCall (.int 3)).after homeTable) =
      (datedCall (.int 3)).after homeTable := by
  have hrun : (((datedCall (.int 3)).result homeTable).flags.map fun flags =>
      (flags.get (.highlight 0), flags.get (.articleGroup 0))) = some (false, true) := by decide +kernel
  obtain ⟨flags, hflags, hheld⟩ := Option.map_eq_some_iff.mp hrun
  have hop : Operation.update ≠ .delete := nofun
  obtain ⟨-, hgives, -, hsame⟩ := classification_repeats (datedCall (.int 3)) homeTable rfl hflags
    (fun _ => countSucceeds_of_inOrder rfl rfl rfl) hop (.int 9) (fun _ => none)
    (fun _ => countSucceeds_of_inOrder rfl rfl rfl)
  refine ⟨flags, hflags, (Prod.mk.inj hheld).1, (Prod.mk.inj hheld).2, hgives ⟨rfl, rfl, rfl, rfl⟩, ?_⟩
  exact hsame (.inr ⟨3, by decide +kernel, by decide⟩)

/-- One half. -/
def oneHalf : Binary64 := .finite false (Nat.pow 2 1073)

/-- A record's own date of the last update does not stand if it is a number other than zero whose whole part is zero:
then the row gets the time of day, and another one when the call is made again later. -/
theorem repeats_moved :
    let call := datedCall (.number (.float oneHalf))
    let again := call.again .update (.int 9) fun _ => none
    (Number.float oneHalf).isZero = false ∧ call.Counts .empty ∧ again.Counts (call.after .empty) ∧
      (call.result .empty).flags.map (Flag.all.filter ·.get) = some [.highlight 0, .articleGroup 0] ∧
      (again.result (call.after .empty)).flags.map (Flag.all.filter ·.get) = some [.highlight 0, .articleGroup 0] ∧
      ((call.after .empty).find? 5).map (fun row => row.get .lastUpdateDate) = some (.int 0) ∧
      ((again.after (call.after .empty)).find? 5).map (fun row => row.get .lastUpdateDate) = some (.int 9) := by
  refine ⟨?_, fun _ => countSucceeds_of_inOrder rfl rfl rfl, fun _ => countSucceeds_of_inOrder rfl rfl rfl, ?_⟩
  · decide +kernel
  · decide +kernel

end FrontPage
