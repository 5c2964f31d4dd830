import FrontPage.Proofs.Classification.Capacity

/-!
# The row of an article

A classification touches no row but that of its own article, and none when it fails or is skipped (`classify_rows`).
Where no layout of a flag has a limit, it reads no other row either: what it gives and what it leaves of its own row
follow from what there was of that row (`Call.IsUnlimited.ownRow`).
-/

namespace FrontPage

/-! ## What is touched -/

/-- The row of an article; without a table there is none. -/
def Roster.row? (roster : Roster) (id : Int) : Option Row := roster.table.bind (·.find? id)

theorem Roster.row?_withTable (roster : Roster) (id : Int) : roster.withTable.row? id = roster.row? id := by
  rw [row?, row?, withTable]
  cases roster.table with
  | none => rfl
  | some table => rfl

/-- **A classification touches its own row only, and none if it fails or is skipped.** -/
theorem classify_rows (config : LayoutConfig) (roster : Roster) {record : Record} (operation : Operation) (now : Value)
    (hid : (∃ id, Record.get record idColumn = .int id) ∨ Record.get record idColumn = .null) :
    let classified := classify config roster record operation now
    (∀ other, Record.get record idColumn ≠ .int other → classified.roster.row? other = roster.row? other) ∧
    ((Record.get record idColumn).holds = false → classified.outcome = .skipped) ∧
    (classified.outcome = .skipped ∨ classified.outcome = .error →
      classified.flags = none ∧ ∀ id, classified.roster.row? id = roster.row? id) := by
  intro classified
  have hskipped : (Record.get record idColumn).holds = false → classified.outcome = .skipped := by
    intro hholds
    rw [show classified = _ from classify_of_not_holds config roster now hholds operation]
  cases htable : roster.table with
  | none =>
    obtain ⟨outcome, trace, hclassified, -⟩ := classify_of_noTable config htable record operation now
    have hroster : classified.roster = roster := congrArg Classified.roster hclassified
    have hflags : classified.flags = none := congrArg Classified.flags hclassified
    rw [hroster]
    exact ⟨fun _ _ => rfl, hskipped, fun _ => ⟨hflags, fun _ => rfl⟩⟩
  | some table =>
    obtain ⟨after, hroster, heffect⟩ := classify_effect config htable record operation now
    have hafter (id : Int) : classified.roster.row? id = after.find? id := by
      rw [show classified.roster = _ from hroster]
      rfl
    have hbefore (id : Int) : roster.row? id = table.find? id := by
      rw [Roster.row?, htable]
      rfl
    refine ⟨fun other hother => ?_, hskipped, fun hout => ?_⟩
    · rw [hafter, hbefore]
      rcases hid with ⟨id, hid⟩ | hnull
      · refine heffect.find?_of_ne (IdTerm.ofValue_of_int hid) fun he => hother ?_
        rw [hid, he]
      · rw [heffect.eq_of_unnamed (by rw [hnull]; exact nofun) (by rw [hnull]; exact nofun)]
    · have hundone : ¬(classified.outcome = .deleted ∨ classified.outcome = .upserted) := by
        rcases hout with hout | hout
        · simp [hout]
        · simp [hout]
      refine ⟨?_, fun id => by rw [hafter, hbefore, heffect.eq_of_undone hundone]⟩
      by_contra hflags
      obtain ⟨flags, hflags⟩ := Option.ne_none_iff_exists'.mp hflags
      rw [show _ = some flags from hflags] at heffect
      exact hundone heffect.of_given.2.2

/-! ## What is read -/

/-- Two computations that begin alike are the same to an observer if they go on alike. -/
theorem observe_bind {ε α β γ : Type} (observe : Except ε β → γ) {x : Except ε α} {f g : α → Except ε β}
    (h : ∀ a, x = .ok a → observe (f a) = observe (g a)) : observe (x >>= f) = observe (x >>= g) := by
  cases x with
  | error cause => rfl
  | ok a => exact h a rfl

namespace Call

variable (call : Call) {s t : Table} {n : Int}

/-- Statements of one call on two tables fail alike, or get the tables. -/
theorem observe_access {α β : Type} {query : Query} {f g : Table → Except StatementError α}
    (observe : Except StatementError α → β) (h : observe (f s) = observe (g t)) :
    observe ((call.roster s).access query >>= f) = observe ((call.roster t).access query >>= g) := by
  rw [Roster.access, Roster.access]
  dsimp only [roster]
  cases call.outage query with
  | some message => rfl
  | none => exact h

/-- Statements about an article fail alike, or go on with its identifier. -/
theorem observe_idTerm {α β : Type} {f g : IdTerm → Except StatementError α} (observe : Except StatementError α → β)
    (h : observe (f (.exactly n)) = observe (g (.exactly n))) :
    observe (Roster.idTerm (.int n) >>= f) = observe (Roster.idTerm (.int n) >>= g) := by
  refine observe_bind observe fun term hterm => ?_
  rw [(Roster.idTerm_eq_ok_iff.mp hterm).2]
  exact h

/-- The row of an article in the roster that is left, if there is one. -/
def rowLeft {ε : Type} (n : Int) : Except ε Roster → Except ε (Option Row) := Except.map fun roster => roster.row? n

/-- The same, where the roster is left beside an answer. -/
def rowBeside {ε α : Type} (n : Int) (result : Except ε (α × Roster)) : Except ε (Option Row) :=
  rowLeft n (result.map (·.2))

theorem rowLeft_mapError {ε δ : Type} (f : ε → δ) (n : Int) (result : Except ε Roster) :
    rowLeft n (result.mapError f) = (rowLeft n result).mapError f := by
  cases result <;> rfl

section

variable (h : s.find? n = t.find? n)

include h

theorem rowOf?_congr : Roster.rowOf? s (.exactly n) = Roster.rowOf? t (.exactly n) := by
  rw [Roster.rowOf?, Roster.rowOf?, h]

theorem contains_congr : (call.roster s).contains (.int n) = (call.roster t).contains (.int n) := by
  refine call.observe_access id (observe_idTerm id ?_)
  rw [rowOf?_congr h]

theorem delete_congr :
    rowBeside n ((call.roster s).delete (.int n)) = rowBeside n ((call.roster t).delete (.int n)) := by
  refine call.observe_access (rowBeside n) (observe_idTerm (rowBeside n) ?_)
  rw [rowOf?_congr h]
  cases hrow : Roster.rowOf? t (.exactly n) with
  | none => exact congrArg Except.ok h
  | some entry =>
    obtain ⟨m, row⟩ := entry
    obtain ⟨hm, -⟩ := Roster.rowOf?_eq_some_iff.mp hrow
    cases hm
    show Except.ok ((s.erase n).find? n) = Except.ok ((t.erase n).find? n)
    rw [Table.find?_erase, Table.find?_erase, if_pos rfl, if_pos rfl]

theorem updateFlags_congr (flags : Record) (date : Value) :
    rowBeside n ((call.roster s).updateFlags (.int n) flags date) =
      rowBeside n ((call.roster t).updateFlags (.int n) flags date) := by
  rw [Roster.updateFlags, Roster.updateFlags]
  dsimp only [roster]
  split
  · rfl
  split
  · rfl
  refine call.observe_access (rowBeside n) (observe_bind (rowBeside n) fun _ _ =>
    observe_bind (rowBeside n) fun _ _ => observe_idTerm (rowBeside n) ?_)
  rw [rowOf?_congr h]
  cases hrow : Roster.rowOf? t (.exactly n) with
  | none => exact congrArg Except.ok h
  | some entry =>
    obtain ⟨m, row⟩ := entry
    obtain ⟨hm, -⟩ := Roster.rowOf?_eq_some_iff.mp hrow
    cases hm
    show Except.ok ((s.put n _).find? n) = Except.ok ((t.put n _).find? n)
    rw [Table.find?_put, Table.find?_put, if_pos rfl, if_pos rfl]

theorem insert_congr {values : Record} (hid : Record.get values idColumn = .int n) :
    rowLeft n ((call.roster s).insert values) = rowLeft n ((call.roster t).insert values) := by
  have hnew (table : Table) : Roster.newId table values = .ok n := by
    rw [Roster.newId, hid]
    rfl
  have hhas : s.has n = t.has n := by rw [Table.has, Table.has, h]
  rw [Roster.insert, Roster.insert]
  dsimp only [roster]
  split
  · rfl
  split
  · rfl
  split
  · rfl
  split
  · rfl
  refine call.observe_access (rowLeft n) (observe_bind (rowLeft n) fun _ _ => observe_bind (rowLeft n) fun _ _ => ?_)
  rw [hnew, hnew]
  show rowLeft n (if s.has n then _ else _) = rowLeft n (if t.has n then _ else _)
  rw [hhas]
  split
  · rfl
  · show Except.ok ((s.put n _).find? n) = Except.ok ((t.put n _).find? n)
    rw [Table.find?_put, Table.find?_put, if_pos rfl, if_pos rfl]

/-- Removing an article leaves the same row of it. -/
theorem remove_congr :
    rowLeft n (remove (call.roster s) (.int n)).result = rowLeft n (remove (call.roster t) (.int n)).result := by
  have hdelete := call.delete_congr h
  rw [rowBeside, rowBeside] at hdelete
  rw [remove, remove, rowLeft_mapError, rowLeft_mapError, hdelete]

/-- So does writing one. -/
theorem upsert_congr (record : Record) (flags : FlagSet) :
    rowLeft n (upsert (call.roster s) record (.int n) flags call.now).result =
      rowLeft n (upsert (call.roster t) record (.int n) flags call.now).result := by
  rw [upsert, upsert, call.contains_congr h]
  cases lastUpdate record call.now with
  | error cause => rfl
  | ok date =>
    dsimp only
    cases (call.roster t).contains (.int n) with
    | error cause => rfl
    | ok found =>
      cases found with
      | true =>
        have hupdate := call.updateFlags_congr h flags.record date
        rw [rowBeside, rowBeside] at hupdate
        dsimp only
        rw [rowLeft_mapError, rowLeft_mapError, hupdate]
      | false =>
        cases hvalues : rosterValues record (.int n) flags.record date with
        | error cause => rfl
        | ok values =>
          dsimp only
          rw [rowLeft_mapError, rowLeft_mapError, call.insert_congr h (rosterValues_eq_ok hvalues).2]

/-- A classification ends alike after placements that leave the same row. -/
theorem classified_congr {placement other : Placement Roster} {given : Option FlagSet}
    {outcome : ClassificationOutcome} (hleft : rowLeft n placement.result = rowLeft n other.result) :
    let one := placement.classified (call.roster s) given outcome
    let another := other.classified (call.roster t) given outcome
    one.roster.row? n = another.roster.row? n ∧ one.flags = another.flags := by
  cases hone : placement.result with
  | error cause =>
    cases hother : other.result with
    | error cause' =>
      rw [Placement.classified_of_error hone, Placement.classified_of_error hother]
      exact ⟨h, rfl⟩
    | ok after =>
      rw [hone, hother] at hleft
      cases hleft
  | ok left =>
    cases hother : other.result with
    | error cause =>
      rw [hone, hother] at hleft
      cases hleft
    | ok after =>
      rw [hone, hother] at hleft
      rw [Placement.classified_of_ok hone, Placement.classified_of_ok hother]
      exact ⟨Except.ok.inj hleft, rfl⟩

end

/-- No active layout of a flag has a positive limit. -/
def IsUnlimited : Prop :=
  ∀ layout ∈ call.config.active, ∀ flag : Flag, layout.name = flag.layoutName → layout.limit.isPositive = false

variable {call}

/-- Without limits every flag is settled by the record and the layouts. -/
theorem IsUnlimited.exists_settled (hunlimited : call.IsUnlimited) (record : Record) (flag : Flag) :
    ∃ held, flag.claim call.config record = .settled held := by
  cases hlayout : call.config.byName? flag.layoutName with
  | some layout =>
    have hlast := LayoutConfig.byName?_eq_some_iff.mp hlayout
    obtain ⟨before, behind, hactive, hname, -⟩ := hlast
    have hm : layout ∈ call.config.active := by simp [hactive]
    rcases Flag.claim_of_lastNamed (LayoutConfig.byName?_eq_some_iff.mp hlayout) record with hclaim | hclaim
    · exact ⟨false, hclaim⟩
    · rw [Layout.claim, hunlimited layout hm flag hname] at hclaim
      exact ⟨true, hclaim⟩
  | none =>
    rcases Flag.claim_of_byName?_eq_none hlayout record with hclaim | hclaim
    · exact ⟨false, hclaim⟩
    · exact ⟨true, hclaim⟩

/-- So the flags that are resolved do not depend on the table. -/
theorem IsUnlimited.resolvedFlags_eq (hunlimited : call.IsUnlimited) (roster other : Roster) (record : Record) :
    resolvedFlags call.config roster record = resolvedFlags call.config other record := by
  refine Slots.ext_get fun flag => ?_
  obtain ⟨held, hclaim⟩ := hunlimited.exists_settled record flag
  rw [resolvedFlags_of_settled roster hclaim, resolvedFlags_of_settled other hclaim]

/-- **Without limits a call goes by its own row.** For tables with the same row of its article it gives the same flags
and leaves the same row. -/
theorem IsUnlimited.ownRow (hunlimited : call.IsUnlimited) (hid : Record.get call.record idColumn = .int n)
    (h : s.find? n = t.find? n) :
    (call.result s).flags = (call.result t).flags ∧ (call.after s).find? n = (call.after t).find? n := by
  have hrow (table : Table) : (call.after table).find? n = (call.result table).roster.row? n := by
    rw [roster_result]
    rfl
  rw [hrow, hrow, result, result]
  cases hholds : (Record.get call.record idColumn).holds with
  | false =>
    rw [classify_of_not_holds _ _ _ hholds, classify_of_not_holds _ _ _ hholds]
    exact ⟨rfl, h⟩
  | true =>
    by_cases hop : call.operation = .delete
    · rw [hop, classify_delete _ _ _ hholds, classify_delete _ _ _ hholds, classifyDeleted, classifyDeleted, hid]
      exact (call.classified_congr h (call.remove_congr h)).symm
    · rw [classify_of_saved _ _ _ hholds hop, classify_of_saved _ _ _ hholds hop, classifySaved, classifySaved]
      have hflags := hunlimited.resolvedFlags_eq (call.roster s) (call.roster t) call.record
      rw [resolvedFlags, resolvedFlags] at hflags
      rw [hflags, hid]
      refine (call.classified_congr h ?_).symm
      rw [place, place]
      split
      · exact call.upsert_congr h _ _
      · exact call.remove_congr h

end Call

end FrontPage
