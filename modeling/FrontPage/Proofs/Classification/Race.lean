import FrontPage.Proofs.Classification.Effect

/-!
# Two calls on one article

A call that has resolved its flags writes them with one or two statements: it deletes its article's row, or it asks
whether there is one and then updates it or inserts one. `Writer.advance` runs the next statement of a call; all of them
in a row place the article (`Writer.advance_advance`). When the statements of two calls on one article alternate
(`Race.run`), the row is in the end what the call resolved that wrote last, with one exception: a row that is deleted
after the last writer has found it and before it updates it is lost (`lastWriter_wins_iff`, `lostUpdate`).
-/

namespace FrontPage

/-! ## Statement by statement -/

/-- A call whose flags are resolved and are to be written. -/
structure Writer where
  record : Record
  flags : FlagSet
  now : Value

/-- How far a call has come. -/
inductive Progress where
  /-- None of its statements has run. -/
  | ready
  /-- It has asked whether its article has a row. -/
  | checked (date : Value) (found : Bool)
  /-- It has written, and gives its flags. -/
  | returned
  | failed

instance (progress : Progress) : Decidable (progress = .returned) :=
  match progress with
  | .returned => isTrue rfl
  | .ready | .checked _ _ | .failed => isFalse nofun

namespace Writer

/-- What a call has come to with the statement that writes, and the roster that it leaves. -/
def wrote {ε : Type} (roster : Roster) : Except ε Roster → Progress × Roster
  | .ok after => (.returned, after)
  | .error _ => (.failed, roster)

/-- The identifier of the article. -/
def id (writer : Writer) : Value := Record.get writer.record idColumn

/-- How many statements a call runs. -/
def statements (writer : Writer) : Nat := if writer.flags.any then 2 else 1

/-- The next statement of a call: how far the call has come with it, and the roster that it leaves. -/
def advance (writer : Writer) (roster : Roster) : Progress → Progress × Roster
  | .ready =>
    if writer.flags.any then
      match lastUpdate writer.record writer.now, roster.contains writer.id with
      | .ok date, .ok found => (.checked date found, roster)
      | _, _ => (.failed, roster)
    else wrote roster (remove roster writer.id).result
  | .checked date true => wrote roster ((roster.updateFlags writer.id writer.flags.record date).map (·.2))
  | .checked date false =>
    match rosterValues writer.record writer.id writer.flags.record date with
    | .ok values => wrote roster (roster.insert values)
    | .error _ => (.failed, roster)
  | .returned => (.returned, roster)
  | .failed => (.failed, roster)

/-- **All statements of a call in a row place its article.** -/
theorem advance_advance (writer : Writer) (roster : Roster) :
    writer.advance (writer.advance roster .ready).2 (writer.advance roster .ready).1 =
      wrote roster (place roster writer.record writer.id writer.flags writer.now).result := by
  rw [place, advance]
  cases hany : writer.flags.any with
  | false =>
    simp only [Bool.false_eq_true, if_false]
    cases (remove roster writer.id).result <;> rfl
  | true =>
    simp only [if_true, upsert]
    cases lastUpdate writer.record writer.now with
    | error cause => rfl
    | ok date =>
      cases roster.contains writer.id with
      | error cause => rfl
      | ok found =>
        cases found with
        | true =>
          simp only [advance]
          cases roster.updateFlags writer.id writer.flags.record date <;> rfl
        | false =>
          simp only [advance]
          cases rosterValues writer.record writer.id writer.flags.record date with
          | error cause => rfl
          | ok values =>
            dsimp only
            cases roster.insert values <;> rfl

section

variable {writer : Writer} {roster : Roster} {table : Table} {id : Int}

/-- A call without flags deletes the row of its article, or fails. -/
theorem advance_ready_of_not_any (htable : roster.table = some table) (hid : IdTerm.ofValue writer.id = .exactly id)
    (hany : writer.flags.any = false) :
    writer.advance roster .ready = (.returned, { roster with table := some (table.erase id) }) ∨
      writer.advance roster .ready = (.failed, roster) := by
  rw [advance, hany]
  cases hr : (remove roster writer.id).result with
  | error cause => exact .inr rfl
  | ok after =>
    rw [remove_eq_ok htable hr, hid]
    exact .inl rfl

/-- A call with flags asks for the row of its article, or fails. -/
theorem advance_ready_of_any (htable : roster.table = some table) (hid : IdTerm.ofValue writer.id = .exactly id)
    (hany : writer.flags.any = true) :
    (∃ date, writer.advance roster .ready = (.checked date (table.find? id).isSome, roster)) ∨
      writer.advance roster .ready = (.failed, roster) := by
  rw [advance, hany]
  cases lastUpdate writer.record writer.now with
  | error cause => exact .inr rfl
  | ok date =>
    cases hfound : roster.contains writer.id with
    | error cause => exact .inr rfl
    | ok found =>
      have hrow := (Roster.contains_eq_ok htable hfound).2
      rw [hid, Roster.rowOf?, Option.isSome_map] at hrow
      rw [hrow]
      exact .inl ⟨date, rfl⟩

/-- A call that has found a row updates it if it is still there; if not, it does nothing and does not fail. -/
theorem advance_found (htable : roster.table = some table) (hid : IdTerm.ofValue writer.id = .exactly id)
    (date : Value) :
    (∃ row, (table.find? id).isSome = true ∧ row.Carries writer.flags ∧ writer.advance roster (.checked date true) =
        (.returned, { roster with table := some (table.put id row) })) ∨
      (table.find? id = none ∧ writer.advance roster (.checked date true) = (.returned, roster)) ∨
      writer.advance roster (.checked date true) = (.failed, roster) := by
  rw [advance]
  cases hu : roster.updateFlags writer.id writer.flags.record date with
  | error cause => exact .inr (.inr rfl)
  | ok updated =>
    obtain ⟨count, after⟩ := updated
    rcases Roster.updateFlags_eq_ok htable hu with ⟨hnone, rfl⟩ | ⟨n, row, hn, hrow, rfl⟩
    · rw [hid, Roster.rowOf?, Option.map_eq_none_iff] at hnone
      exact .inr (.inl ⟨hnone, rfl⟩)
    · obtain rfl : n = id := IdTerm.exactly.inj (hn.symm.trans hid)
      exact .inl ⟨_, by rw [hrow, Option.isSome_some], Roster.carries_flagged _ _ _, rfl⟩

/-- A call that has found no row puts one in, or fails. -/
theorem advance_not_found (htable : roster.table = some table) (hid : IdTerm.ofValue writer.id = .exactly id)
    (date : Value) :
    (∃ row, row.Carries writer.flags ∧ writer.advance roster (.checked date false) =
        (.returned, { roster with table := some (table.put id row) })) ∨
      writer.advance roster (.checked date false) = (.failed, roster) := by
  rw [advance]
  cases hv : rosterValues writer.record writer.id writer.flags.record date with
  | error cause => exact .inr rfl
  | ok values =>
    dsimp only
    cases hi : roster.insert values with
    | error cause => exact .inr rfl
    | ok after =>
      obtain ⟨n, hn, -, hafter⟩ := Roster.insert_eq_ok htable hi
      obtain ⟨hcarries, hvalue⟩ := rosterValues_eq_ok hv
      have hnull : Record.get values idColumn ≠ .null := by
        intro hnull
        rw [← hvalue, hnull] at hid
        cases hid
      have hterm := Roster.newId_eq_ok hn hnull
      rw [hvalue, hid] at hterm
      rcases hterm with hterm | hterm
      · obtain rfl : id = n := IdTerm.exactly.inj hterm
        rw [hafter]
        exact .inl ⟨_, Roster.carries_newRow hcarries, rfl⟩
      · cases hterm

theorem exists_table_advance (htable : roster.table = some table) (hid : IdTerm.ofValue writer.id = .exactly id)
    (progress : Progress) : ∃ after, (writer.advance roster progress).2.table = some after := by
  cases progress with
  | ready =>
    cases hany : writer.flags.any with
    | false => rcases advance_ready_of_not_any htable hid hany with h | h <;> rw [h] <;> simp [htable]
    | true => rcases advance_ready_of_any htable hid hany with ⟨date, h⟩ | h <;> rw [h] <;> simp [htable]
  | checked date found =>
    cases found with
    | true => rcases advance_found htable hid date with ⟨row, -, -, h⟩ | ⟨-, h⟩ | h <;> rw [h] <;> simp [htable]
    | false => rcases advance_not_found htable hid date with ⟨row, -, h⟩ | h <;> rw [h] <;> simp [htable]
  | returned => exact ⟨table, htable⟩
  | failed => exact ⟨table, htable⟩

/-- A call with flags leaves its article in the table. -/
theorem isSome_advance (htable : roster.table = some table) (hid : IdTerm.ofValue writer.id = .exactly id)
    (hany : writer.flags.any = true) (hrow : (table.find? id).isSome = true) (progress : Progress) {after : Table}
    (hafter : (writer.advance roster progress).2.table = some after) : (after.find? id).isSome = true := by
  cases progress with
  | ready =>
    rcases advance_ready_of_any htable hid hany with ⟨date, h⟩ | h
    all_goals
      rw [h, htable] at hafter
      exact Option.some.inj hafter ▸ hrow
  | checked date found =>
    have hput (row : Row) : ((table.put id row).find? id).isSome = true := by rw [Table.find?_put, if_pos rfl]; rfl
    cases found with
    | true =>
      rcases advance_found htable hid date with ⟨row, -, -, h⟩ | ⟨hnone, -⟩ | h
      · rw [h] at hafter
        exact Option.some.inj hafter ▸ hput row
      · rw [hnone] at hrow
        cases hrow
      · rw [h, htable] at hafter
        exact Option.some.inj hafter ▸ hrow
    | false =>
      rcases advance_not_found htable hid date with ⟨row, -, h⟩ | h
      · rw [h] at hafter
        exact Option.some.inj hafter ▸ hput row
      · rw [h, htable] at hafter
        exact Option.some.inj hafter ▸ hrow
  | returned => exact Option.some.inj (htable.symm.trans hafter) ▸ hrow
  | failed => exact Option.some.inj (htable.symm.trans hafter) ▸ hrow

end

end Writer

/-- The row of an article is what flags say: it carries them if any is held, and there is none otherwise. -/
def Table.Shows (table : Table) (id : Int) (flags : FlagSet) : Prop :=
  if flags.any then ∃ row, table.find? id = some row ∧ row.Carries flags else table.find? id = none

theorem Table.shows_put (table : Table) {id : Int} {row : Row} {flags : FlagSet} (hany : flags.any = true)
    (h : row.Carries flags) : (table.put id row).Shows id flags := by
  rw [Shows, if_pos hany]
  exact ⟨row, by rw [find?_put, if_pos rfl], h⟩

/-! ## Two calls -/

/-- The two calls. -/
inductive Side where
  | first
  | second
  deriving DecidableEq, Repr

/-- The other call. -/
def Side.other : Side → Side
  | .first => .second
  | .second => .first

theorem Side.eq_other_of_ne {side last : Side} (h : side ≠ last) : side = last.other := by
  revert h
  cases side <;> cases last <;> decide

theorem Side.ne_other (side : Side) : side ≠ side.other := by
  cases side <;> decide

theorem Side.count_other_of_notMem {schedule : List Side} {last : Side} (h : last ∉ schedule) :
    schedule.count last.other = schedule.length := by
  rw [List.count_eq_length]
  intro side hm
  refine (Side.eq_other_of_ne ?_).symm
  rintro rfl
  exact h hm

/-- A roster, and how far two calls have come with it. -/
structure Race where
  roster : Roster
  progress : Side → Progress

namespace Race

variable (writers : Side → Writer)

/-- One call runs its next statement. -/
def step (race : Race) (side : Side) : Race :=
  let advanced := (writers side).advance race.roster (race.progress side)
  ⟨advanced.2, Function.update race.progress side advanced.1⟩

/-- The calls run their statements in the order of a schedule. -/
def run (race : Race) (schedule : List Side) : Race := schedule.foldl (step writers) race

/-- The schedule has all statements of both calls. -/
def Complete (schedule : List Side) : Prop := ∀ side, schedule.count side = (writers side).statements

/-- Two calls that are about to run, and a roster. -/
def start (roster : Roster) : Race := ⟨roster, fun _ => .ready⟩

section

variable {writers} {race : Race} {side last : Side} {schedule before between : List Side} {roster : Roster}
  {table reached : Table} {id : Int}

theorem run_append (race : Race) (before behind : List Side) :
    race.run writers (before ++ behind) = (race.run writers before).run writers behind := List.foldl_append

theorem run_cons (race : Race) (side : Side) (rest : List Side) :
    race.run writers (side :: rest) = (race.step writers side).run writers rest := rfl

theorem progress_step (race : Race) (side : Side) :
    (race.step writers side).progress side = ((writers side).advance race.roster (race.progress side)).1 :=
  Function.update_self _ _ _

/-- A call comes no further while it does not run. -/
theorem progress_run_of_notMem (race : Race) (h : side ∉ schedule) :
    (race.run writers schedule).progress side = race.progress side := by
  induction schedule generalizing race with
  | nil => rfl
  | cons next rest ih =>
    rw [List.mem_cons, not_or] at h
    exact (ih _ h.2).trans (Function.update_of_ne h.1 _ _)

theorem exists_table_run (hid : ∀ side, IdTerm.ofValue (writers side).id = .exactly id) (race : Race)
    (htable : race.roster.table = some table) (schedule : List Side) :
    ∃ after, (race.run writers schedule).roster.table = some after := by
  induction schedule generalizing race table with
  | nil => exact ⟨table, htable⟩
  | cons next rest ih =>
    obtain ⟨between, hbetween⟩ := Writer.exists_table_advance htable (hid next) (race.progress next)
    exact ih (race.step writers next) hbetween

/-- While only calls with flags run, the article stays in the table. -/
theorem isSome_run (hid : ∀ side, IdTerm.ofValue (writers side).id = .exactly id) (race : Race)
    (hany : ∀ side ∈ schedule, (writers side).flags.any = true) (htable : race.roster.table = some table)
    (hrow : (table.find? id).isSome = true) {after : Table}
    (hafter : (race.run writers schedule).roster.table = some after) : (after.find? id).isSome = true := by
  induction schedule generalizing race table with
  | nil => exact Option.some.inj (htable.symm.trans hafter) ▸ hrow
  | cons next rest ih =>
    obtain ⟨between, hbetween⟩ := Writer.exists_table_advance htable (hid next) (race.progress next)
    have hkept := Writer.isSome_advance htable (hid next) (hany next List.mem_cons_self) hrow _ hbetween
    exact ih (race.step writers next) (fun side hm => hany side (List.mem_cons_of_mem _ hm)) hbetween hkept hafter

/-! ## The row in the end -/

/-- The last call deletes its article, so that there is no row in the end. -/
theorem shows_of_deletes (hid : ∀ side, IdTerm.ofValue (writers side).id = .exactly id)
    (hany : (writers last).flags.any = false) (hready : race.progress last = .ready)
    (htable : race.roster.table = some table) (hreturned : (race.step writers last).progress last = .returned) :
    ∃ after, (race.step writers last).roster.table = some after ∧ after.Shows id (writers last).flags := by
  rw [progress_step, hready] at hreturned
  rw [step, hready]
  rcases Writer.advance_ready_of_not_any htable (hid last) hany with h | h
  · rw [h]
    refine ⟨_, rfl, ?_⟩
    rw [Table.Shows, hany, if_neg Bool.false_ne_true, Table.find?_erase, if_pos rfl]
  · rw [h] at hreturned
    cases hreturned

/-- The last call writes what its article has been found to have a row for or not. The row in the end is what the call
resolved unless it was found and then deleted. -/
theorem shows_of_writes (hid : ∀ side, IdTerm.ofValue (writers side).id = .exactly id)
    (hany : (writers last).flags.any = true) {date : Value} {found : Bool}
    (hchecked : race.progress last = .checked date found) (htable : race.roster.table = some table)
    (hreturned : (race.step writers last).progress last = .returned) :
    ∃ after, (race.step writers last).roster.table = some after ∧
      (after.Shows id (writers last).flags ↔ ¬(found = true ∧ table.find? id = none)) := by
  rw [progress_step, hchecked] at hreturned
  rw [step, hchecked]
  cases found with
  | true =>
    rcases Writer.advance_found htable (hid last) date with ⟨row, hrow, hcarries, h⟩ | ⟨hnone, h⟩ | h
    · rw [h]
      refine ⟨_, rfl, fun _ hlost => ?_, fun _ => Table.shows_put _ hany hcarries⟩
      rw [hlost.2] at hrow
      cases hrow
    · rw [h]
      refine ⟨table, htable, fun hshows => ?_, fun hkept => absurd ⟨rfl, hnone⟩ hkept⟩
      rw [Table.Shows, if_pos hany, hnone] at hshows
      obtain ⟨row, hrow, -⟩ := hshows
      cases hrow
    · rw [h] at hreturned
      cases hreturned
  | false =>
    rcases Writer.advance_not_found htable (hid last) date with ⟨row, hcarries, h⟩ | h
    · rw [h]
      exact ⟨_, rfl, fun _ hlost => Bool.false_ne_true hlost.1, fun _ => Table.shows_put _ hany hcarries⟩
    · rw [h] at hreturned
      cases hreturned

/-- A call with flags that comes to write has found out before whether its article had a row. -/
theorem checked_run (hid : ∀ side, IdTerm.ofValue (writers side).id = .exactly id)
    (hany : (writers last).flags.any = true) (hready : race.progress last = .ready) (hbetween : last ∉ between)
    (htable : race.roster.table = some table)
    (hreturned : ((race.run writers (last :: between)).step writers last).progress last = .returned) :
    (race.step writers last).roster = race.roster ∧
      ∃ date, (race.run writers (last :: between)).progress last = .checked date (table.find? id).isSome := by
  have hkept : (race.run writers (last :: between)).progress last = (race.step writers last).progress last :=
    progress_run_of_notMem _ hbetween
  rw [progress_step, hready] at hkept
  rw [step, hready]
  rcases Writer.advance_ready_of_any htable (hid last) hany with ⟨date, h⟩ | h
  · rw [h] at hkept ⊢
    exact ⟨rfl, date, hkept⟩
  · rw [h] at hkept
    rw [progress_step, hkept] at hreturned
    cases hreturned

/-- If the article is gone in the end, some call took it out. -/
theorem exists_deletes (hid : ∀ side, IdTerm.ofValue (writers side).id = .exactly id) (race : Race)
    (htable : race.roster.table = some table) (hrow : (table.find? id).isSome = true) {gone : Table}
    (hgone : (race.run writers schedule).roster.table = some gone) (hnone : gone.find? id = none) :
    ∃ side ∈ schedule, (writers side).flags.any = false := by
  by_contra hall
  have hany : ∀ side ∈ schedule, (writers side).flags.any = true :=
    fun side hm => Bool.eq_true_of_not_eq_false fun h => hall ⟨side, hm, h⟩
  have hkept := isSome_run hid race hany htable hrow hgone
  rw [hnone] at hkept
  cases hkept

/-- A call that deletes between the two statements of the other one has no more statements, and these are all. -/
theorem eq_of_deletes (hcomplete : Complete writers (before ++ last :: (between ++ [last]))) (hbefore : last ∉ before)
    (hbetween : last ∉ between) (hm : last.other ∈ between) (hany : (writers last.other).flags.any = false) :
    before = [] ∧ between = [last.other] := by
  have hone := hcomplete last.other
  rw [Writer.statements, hany, if_neg Bool.false_ne_true, List.count_append, List.count_cons_of_ne last.ne_other,
    List.count_append, Side.count_other_of_notMem hbefore, Side.count_other_of_notMem hbetween] at hone
  have hpos := List.length_pos_of_mem hm
  obtain ⟨only, rfl⟩ := List.length_eq_one_iff.mp (show between.length = 1 by omega)
  rw [List.mem_singleton] at hm
  exact ⟨List.eq_nil_of_length_eq_zero (by omega), by rw [hm]⟩

/-- A call with one statement deletes. -/
theorem any_eq_false_of_complete (hcomplete : Complete writers [last, last.other, last]) :
    (writers last.other).flags.any = false := by
  have hone := hcomplete last.other
  by_contra hany
  rw [Writer.statements, if_pos (Bool.eq_true_of_not_eq_false hany)] at hone
  cases last <;> exact absurd hone (by decide)

/-- A row that the last call finds is gone when it writes if and only if the other call deletes it right in between, and
nothing else happens. -/
theorem lost_iff (hid : ∀ side, IdTerm.ofValue (writers side).id = .exactly id) (htable : roster.table = some table)
    (hcomplete : Complete writers (before ++ last :: (between ++ [last]))) (hbefore : last ∉ before)
    (hbetween : last ∉ between)
    (hreturned : ∀ side, ((start roster).run writers (before ++ last :: between ++ [last])).progress side = .returned)
    (hreached : ((start roster).run writers before).roster.table = some reached)
    (hchecked : (((start roster).run writers before).step writers last).roster =
      ((start roster).run writers before).roster)
    {gone : Table} (hgone : ((start roster).run writers (before ++ last :: between)).roster.table = some gone) :
    (reached.find? id).isSome = true ∧ gone.find? id = none ↔
      before ++ last :: (between ++ [last]) = [last, last.other, last] ∧ (table.find? id).isSome = true := by
  rw [run_append, run_cons] at hgone
  constructor
  · rintro ⟨hrow, hnone⟩
    obtain ⟨side, hm, hany⟩ := exists_deletes hid _ (hchecked ▸ hreached) hrow hgone hnone
    obtain rfl : side = last.other := Side.eq_other_of_ne (by rintro rfl; exact hbetween hm)
    obtain ⟨rfl, rfl⟩ := eq_of_deletes hcomplete hbefore hbetween hm hany
    obtain rfl : reached = table := Option.some.inj (hreached.symm.trans htable)
    exact ⟨rfl, hrow⟩
  · rintro ⟨hschedule, hrow⟩
    have hnil : before = [] := by
      cases before with
      | nil => rfl
      | cons side rest =>
        obtain rfl : side = last := (List.cons.inj hschedule).1
        exact absurd List.mem_cons_self hbefore
    subst hnil
    obtain rfl : between = [last.other] := List.append_cancel_right (List.cons.inj hschedule).2
    obtain rfl : reached = table := Option.some.inj (hreached.symm.trans htable)
    have hany := any_eq_false_of_complete (hschedule ▸ hcomplete)
    have hready : ((start roster).step writers last).progress last.other = .ready :=
      Function.update_of_ne last.ne_other.symm _ _
    have hnext : last.other ∉ [last] := by simpa using last.ne_other.symm
    obtain ⟨after, hafter, hshows⟩ := shows_of_deletes hid hany hready (hchecked ▸ hreached)
      ((progress_run_of_notMem _ hnext).symm.trans (hreturned last.other))
    rw [Table.Shows, hany, if_neg Bool.false_ne_true] at hshows
    exact ⟨hrow, by rw [← hshows, Option.some.inj (hafter.symm.trans hgone)]⟩

end

end Race

/-- **The call that writes last decides on the article, unless the article is deleted in between.** A call that saves an
article is its statements one right after the other. When all statements of two calls on one article have run, in any
order, and both calls gave flags, then the row of the article is what the call resolved that wrote last, with one
exception: that call asked first and found a row, the other deleted it, and the update found none. -/
theorem lastWriter_wins_iff (writers : Side → Writer) {roster : Roster} {table : Table}
    (htable : roster.table = some table) {id : Int} (hid : ∀ side, IdTerm.ofValue (writers side).id = .exactly id) :
    (∀ (side : Side) (found : Roster),
      (writers side).advance ((writers side).advance found .ready).2 ((writers side).advance found .ready).1 =
        Writer.wrote found
          (place found (writers side).record (writers side).id (writers side).flags (writers side).now).result) ∧
    ∀ (schedule : List Side) (last : Side), Race.Complete writers schedule → schedule.getLast? = some last →
      (∀ side, ((Race.start roster).run writers schedule).progress side = .returned) →
      ∃ after, ((Race.start roster).run writers schedule).roster.table = some after ∧
        (after.Shows id (writers last).flags ↔
          ¬(schedule = [last, last.other, last] ∧ (table.find? id).isSome = true)) := by
  refine ⟨fun side => (writers side).advance_advance, fun schedule last hcomplete hlast hreturned => ?_⟩
  obtain ⟨init, rfl⟩ := List.getLast?_eq_some_iff.mp hlast
  have hcount := hcomplete last
  have hwrites := hreturned last
  rw [List.count_append, List.count_singleton_self] at hcount
  rw [Race.run_append] at hwrites ⊢
  obtain ⟨gone, hgone⟩ := Race.exists_table_run hid (Race.start roster) htable init
  cases hany : (writers last).flags.any with
  | false =>
    rw [Writer.statements, hany] at hcount
    have hinit : last ∉ init := List.count_eq_zero.mp (Nat.succ.inj hcount)
    obtain ⟨after, hafter, hshows⟩ := Race.shows_of_deletes hid hany (Race.progress_run_of_notMem _ hinit) hgone hwrites
    refine ⟨after, hafter, fun _ hlost => hinit ?_, fun _ => hshows⟩
    rw [show init = [last, last.other] from List.append_cancel_right hlost.1]
    exact List.mem_cons_self
  | true =>
    rw [Writer.statements, hany, if_pos rfl] at hcount
    have hmem : last ∈ init := List.count_pos_iff.mp (by omega)
    obtain ⟨before, between, rfl, hbefore⟩ := List.eq_append_cons_of_mem hmem
    rw [List.count_append, List.count_cons_self, List.count_eq_zero.mpr hbefore] at hcount
    have hbetween : last ∉ between := List.count_eq_zero.mp (by omega)
    obtain ⟨reached, hreached⟩ := Race.exists_table_run hid (Race.start roster) htable before
    have hready : ((Race.start roster).run writers before).progress last = .ready :=
      Race.progress_run_of_notMem _ hbefore
    obtain ⟨hchecked, date, hprogress⟩ :=
      Race.checked_run hid hany hready hbetween hreached (Race.run_append _ before _ ▸ hwrites)
    rw [← Race.run_append] at hprogress
    obtain ⟨after, hafter, hshows⟩ := Race.shows_of_writes hid hany hprogress hgone hwrites
    rw [List.append_assoc, List.cons_append] at hcomplete ⊢
    rw [Race.lost_iff hid htable hcomplete hbefore hbetween hreturned hreached hchecked hgone] at hshows
    exact ⟨after, hafter, hshows⟩

/-- One call gives an article a highlight, and the other takes all flags from it. -/
def rivals : Side → Writer
  | .first => ⟨[("article_id", .int 5)], Slots.ofFn fun flag => flag.column == "highlight1_flag", .int 0⟩
  | .second => ⟨[("article_id", .int 5)], Slots.ofFn fun _ => false, .int 0⟩

/-- A roster on which the article holds the highlight. -/
def contested : Roster where
  table := some (Table.empty.put 5 (Roster.newRow [("highlight1_flag", .text "Yes")]))

/-- If the first call writes after the second one has deleted the article and before it asks, the article has its row in
the end. -/
theorem lastWriter_wins_rivals : ∃ after,
    ((Race.start contested).run rivals [.second, .first, .first]).roster.table = some after ∧
      after.Shows 5 (rivals .first).flags := by
  have hid : ∀ side, IdTerm.ofValue (rivals side).id = .exactly 5 := by
    intro side
    cases side <;> rfl
  have htable : contested.table = some (Table.empty.put 5 (Roster.newRow [("highlight1_flag", .text "Yes")])) := rfl
  obtain ⟨after, hafter, hiff⟩ := (lastWriter_wins_iff rivals htable hid).2 [.second, .first, .first] .first
    (by intro side; cases side <;> decide +kernel) rfl (by intro side; cases side <;> decide +kernel)
  exact ⟨after, hafter, hiff.mpr fun hlost => absurd hlost.1 (by decide)⟩

/-- The article is deleted after the first call has found it and before it updates it: both calls give flags, the first
one wrote last and gave the highlight, and there is no row. -/
theorem lostUpdate :
    (∀ side, IdTerm.ofValue (rivals side).id = .exactly 5) ∧ Race.Complete rivals [.first, .second, .first] ∧
      (∀ side, ((Race.start contested).run rivals [.first, .second, .first]).progress side = .returned) ∧
      ∃ after, ((Race.start contested).run rivals [.first, .second, .first]).roster.table = some after ∧
        after.find? 5 = none ∧ ¬after.Shows 5 (rivals .first).flags := by
  have hgone : (((Race.start contested).run rivals [.first, .second, .first]).roster.table.map fun after =>
      (after.find? 5).isNone) = some true := by decide +kernel
  obtain ⟨after, hafter, hnone⟩ := Option.map_eq_some_iff.mp hgone
  rw [Option.isNone_iff_eq_none] at hnone
  refine ⟨fun side => by cases side <;> rfl, fun side => by cases side <;> decide +kernel,
    fun side => by cases side <;> decide +kernel, after, hafter, hnone, fun hshows => ?_⟩
  have hany : (rivals .first).flags.any = true := by decide +kernel
  rw [Table.Shows, if_pos hany, hnone] at hshows
  obtain ⟨row, hrow, -⟩ := hshows
  cases hrow

end FrontPage
