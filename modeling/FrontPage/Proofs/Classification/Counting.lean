import FrontPage.Classification.Admission
import FrontPage.Proofs.Roster.InOrder

/-!
# Counting all at once and one by one

Asked for the flags of different columns all at once, the roster counts each of them as when it is asked for that one
alone (`Roster.lookup_countColumns`), but it cannot be asked for one column twice (`countColumns_repeated`). So
where the candidates cannot be counted all at once and are counted one by one, the same ones are admitted, and of those
that cannot be counted so either each is admitted without affecting the others (`counting_agrees`).
-/

namespace FrontPage

namespace Roster

variable {roster : Roster} {table : Table} {id : Value} {names : List String} {name : String} {flag : Flag}

/-! ## Columns -/

/-- Columns of flags that are named once each are counted as their flags are. -/
theorem countColumns_eq (hknown : ∀ name ∈ names, (Flag.ofColumn? name).isSome = true) (hnodup : names.Nodup) :
    roster.countColumns names id = roster.countFlags (names.filterMap Flag.ofColumn?) id := by
  have hunknown : (names.find? fun name => (Flag.ofColumn? name).isNone) = none := by
    rw [List.find?_eq_none]
    intro name hname
    simp [Option.isSome_iff_ne_none.mp (hknown name hname)]
  have hrepeated : (names.find? fun name => 1 < names.count name) = none := by
    rw [List.find?_eq_none]
    intro name _
    have hcount := List.nodup_iff_count_le_one.mp hnodup name
    simp only [decide_eq_true_eq]
    omega
  rw [countColumns, hunknown, hrepeated]
  cases hout : roster.outage .countFlags with
  | some message =>
    rw [countFlags, hout]
    rfl
  | none =>
    cases roster.countFlags (names.filterMap Flag.ofColumn?) id with
    | error cause => rfl
    | ok counts => rfl

/-- A column of a flag is counted as the flag is. -/
theorem countColumn_eq (hflag : Flag.ofColumn? name = some flag) :
    roster.countColumn name id = roster.countFlag flag id := by
  rw [countColumn, hflag]

/-- **Counting all at once agrees with counting one by one.** Of columns that are named once each, every one is counted
as it is alone; an identifier that cannot be in a table is refused in both ways. -/
theorem lookup_countColumns (htable : roster.table = some table) (hall : roster.outage .countFlags = none)
    (hone : roster.outage (.countFlag flag) = none) (hknown : ∀ name ∈ names, (Flag.ofColumn? name).isSome = true)
    (hnodup : names.Nodup) (hname : name ∈ names) (hflag : Flag.ofColumn? name = some flag) :
    (roster.countColumns names id).map (fun counts => counts.lookup flag) = (roster.countColumn name id).map some := by
  have hmem : flag ∈ names.filterMap Flag.ofColumn? := List.mem_filterMap.mpr ⟨name, hname, hflag⟩
  rw [countColumns_eq hknown hnodup, countColumn_eq hflag]
  cases hid : refusal? id with
  | none =>
    obtain ⟨counts, hcounts⟩ := exists_countFlags htable hall hid (names.filterMap Flag.ofColumn?)
    rw [countFlag_of_inOrder htable hone hid, hcounts, Except.map, countFlags_eq_ok htable hcounts,
      List.lookup_graph _ hmem]
    rfl
  | some cause =>
    have hsome : (names.filterMap Flag.ofColumn?).isEmpty = false :=
      List.isEmpty_eq_false_iff_exists_mem.mpr ⟨flag, hmem⟩
    have hrefused : roster.countFlags (names.filterMap Flag.ofColumn?) id = .error (.refused cause) := by
      rw [countFlags, hall, hsome]
      exact named_eq_error htable hall hid _
    have halone : roster.countFlag flag id = .error (.refused cause) := named_eq_error htable hone hid _
    rw [hrefused, halone]
    rfl

end Roster

/-! ## Candidates -/

section

variable {roster : Roster} {table : Table} {limited : List (Flag × Layout)} {id : Value}

/-- Candidates that are counted all at once are admitted where their layouts have room. -/
theorem admitted_of_countFlags (htable : roster.table = some table) {counts : List (Flag × Nat)}
    (h : roster.countFlags (limited.map (·.1)) id = .ok counts) :
    (decideCandidates roster limited id).admitted =
      limited.map fun c => (c.1, c.2.hasRoom (Roster.holders table (.ofValue id) c.1)) := by
  simp only [decideCandidates, h, admitAll]
  apply List.map_congr_left
  intro candidate hmem
  rw [Roster.countFlags_eq_ok htable h, List.lookup_graph _ (List.mem_map_of_mem hmem), Option.getD_some]

/-- Candidates that are counted one by one are admitted where their layouts have room, and where they cannot be
counted. -/
theorem admitted_of_countFlag (htable : roster.table = some table) {cause : StatementError}
    (h : roster.countFlags (limited.map (·.1)) id = .error cause) {uncounted : Finset Flag}
    (hfails : ∀ c ∈ limited, c.1 ∈ uncounted → ∃ cause, roster.countFlag c.1 id = .error cause)
    (hcounts : ∀ c ∈ limited, c.1 ∉ uncounted → ∃ count, roster.countFlag c.1 id = .ok count) :
    (decideCandidates roster limited id).admitted = limited.map fun c =>
      (c.1, if c.1 ∈ uncounted then true else c.2.hasRoom (Roster.holders table (.ofValue id) c.1)) := by
  simp only [decideCandidates, h, admitAll]
  apply List.map_congr_left
  intro candidate hmem
  rw [admitOne]
  split
  · next count hcount =>
    rw [if_neg, Roster.countFlag_eq_ok htable hcount]
    intro huncounted
    obtain ⟨cause, hcause⟩ := hfails candidate hmem huncounted
    rw [hcount] at hcause
    cases hcause
  · next cause hcause =>
    rw [if_pos]
    by_contra hcounted
    obtain ⟨count, hcount⟩ := hcounts candidate hmem hcounted
    rw [hcause] at hcount
    cases hcount

end

/-- **Counting all at once and one by one come to the same.** Each of different columns is counted alike in both ways:
how many other articles hold its flag. Candidates that cannot be counted all at once are admitted like those that can,
apart from the ones that cannot be counted for themselves either: these are admitted in any case, and exactly these. -/
theorem counting_agrees (table : Table) (n : Int) :
    (∀ (roster : Roster) (names : List String), roster.table = some table → roster.outage .countFlags = none →
      (∀ flag, roster.outage (.countFlag flag) = none) → (∀ name ∈ names, (Flag.ofColumn? name).isSome = true) →
      names.Nodup → ∀ name ∈ names, ∃ flag, Flag.ofColumn? name = some flag ∧
        (roster.countColumns names (.int n)).map (fun counts => counts.lookup flag) =
          (roster.countColumn name (.int n)).map some ∧
        (fitsWord n = true → roster.countColumn name (.int n) = .ok ((table.holders flag).erase n).card)) ∧
    ∀ (roster failing : Roster) (limited : List (Flag × Layout)) (counts : List (Flag × Nat)) (cause : StatementError)
      (uncounted : Finset Flag), roster.table = some table → failing.table = some table →
      roster.countFlags (limited.map (·.1)) (.int n) = .ok counts →
      failing.countFlags (limited.map (·.1)) (.int n) = .error cause →
      (∀ c ∈ limited, c.1 ∈ uncounted → ∃ cause, failing.countFlag c.1 (.int n) = .error cause) →
      (∀ c ∈ limited, c.1 ∉ uncounted → ∃ count, failing.countFlag c.1 (.int n) = .ok count) →
      (decideCandidates roster limited (.int n)).admitted =
        limited.map (fun c => (c.1, c.2.hasRoom ((table.holders c.1).erase n).card)) ∧
      (decideCandidates failing limited (.int n)).admitted =
        (decideCandidates roster limited (.int n)).admitted.map fun decision =>
          (decision.1, if decision.1 ∈ uncounted then true else decision.2) := by
  have hholders (flag : Flag) : Roster.holders table (.ofValue (.int n)) flag = ((table.holders flag).erase n).card :=
    Roster.holders_exactly table n flag
  constructor
  · intro roster names htable hall hone hknown hnodup name hname
    obtain ⟨flag, hflag⟩ := Option.isSome_iff_exists.mp (hknown name hname)
    refine ⟨flag, hflag, Roster.lookup_countColumns htable hall (hone flag) hknown hnodup hname hflag, ?_⟩
    intro hfits
    have hid : refusal? (.int n) = none := if_pos hfits
    rw [Roster.countColumn_eq hflag, Roster.countFlag_of_inOrder htable (hone flag) hid, hholders]
  · intro roster failing limited counts cause uncounted htable hfailing hcounts hcause hfails hsingle
    rw [admitted_of_countFlags htable hcounts, admitted_of_countFlag hfailing hcause hfails hsingle]
    simp only [hholders, List.map_map, true_and]
    rfl

/-- Of three articles two hold a highlight and one holds a group; what the last one holds is not known. -/
def countedTable : Table :=
  ((Table.empty.put 1 (Roster.newRow [("highlight1_flag", .text "Yes")])).put 2
    (Roster.newRow [("highlight1_flag", .text "Yes"), ("articlegroup2_flag", .text "Yes")])).put 3 (Roster.newRow [])

/-- The highlight and the group, with room for one article each. -/
def countedCandidates : List (Flag × Layout) :=
  [(.highlight ⟨0, by decide⟩, { name := "Highlight1", limit := .int 1 }),
   (.articleGroup ⟨1, by decide⟩, { name := "ArticleGroup2", limit := .int 1 })]

/-- The group cannot be counted, nor can both at once. -/
def groupOutage (query : Query) : Option String :=
  if query = .countFlags ∨ query = .countFlag (.articleGroup ⟨1, by decide⟩) then some "boom" else none

/-- The first article gets neither where both are counted, and the group where it is not. -/
theorem counting_agrees_group :
    (∃ flag, Flag.ofColumn? "highlight1_flag" = some flag ∧
      (({ table := some countedTable } : Roster).countColumns ["articlegroup2_flag", "highlight1_flag"] (.int 1)).map
          (fun counts => counts.lookup flag) =
        (({ table := some countedTable } : Roster).countColumn "highlight1_flag" (.int 1)).map some) ∧
    (decideCandidates { table := some countedTable } countedCandidates (.int 1)).admitted =
      [(.highlight 0, false), (.articleGroup 1, false)] ∧
    (decideCandidates { table := some countedTable, outage := groupOutage } countedCandidates (.int 1)).admitted =
      [(.highlight 0, false), (.articleGroup 1, true)] := by
  have hknown : ∀ name ∈ ["articlegroup2_flag", "highlight1_flag"], (Flag.ofColumn? name).isSome = true := by
    decide +kernel
  obtain ⟨flag, hflag, hsame, -⟩ := (counting_agrees countedTable 1).1 { table := some countedTable }
    ["articlegroup2_flag", "highlight1_flag"] rfl rfl (fun _ => rfl) hknown (by decide) "highlight1_flag" (by decide)
  have hcounted : ∃ counts, ({ table := some countedTable } : Roster).countFlags (countedCandidates.map (·.1))
      (.int 1) = .ok counts := Roster.exists_countFlags rfl rfl rfl _
  obtain ⟨counts, hcounts⟩ := hcounted
  obtain ⟨hboth, hgroup⟩ := (counting_agrees countedTable 1).2 { table := some countedTable }
    { table := some countedTable, outage := groupOutage } countedCandidates counts (.outage "boom") {.articleGroup 1}
    rfl rfl hcounts rfl
    (fun c _ huncounted => ⟨.outage "boom", by rw [Finset.mem_singleton.mp huncounted]; rfl⟩)
    (fun c hm hcounted => by
      rcases List.mem_cons.mp hm with rfl | hm
      · exact ⟨_, Roster.countFlag_of_inOrder rfl rfl rfl⟩
      · rw [List.mem_singleton.mp hm] at hcounted
        exact absurd (Finset.mem_singleton_self _) hcounted)
  rw [hgroup, hboth]
  exact ⟨⟨flag, hflag, hsame⟩, by decide +kernel, by decide +kernel⟩

/-- A column that is named twice cannot be counted with the others, though alone it can. -/
theorem countColumns_repeated :
    let roster : Roster := {}
    roster.countColumns ["highlight1_flag", "highlight1_flag"] (.int 5) = .error (.repeatedColumn "highlight1_flag") ∧
      roster.countColumn "highlight1_flag" (.int 5) = .ok 0 := by
  constructor <;> rfl

end FrontPage
