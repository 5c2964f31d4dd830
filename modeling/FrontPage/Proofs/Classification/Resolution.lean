import FrontPage.Proofs.Classification.Effect
import FrontPage.Proofs.Layout.Naming

/-!
# Which flags an article gets

`BelongsTo` says which flags a record gets when so many other articles hold each of them, in terms of the record and
the active layouts alone. A classification resolves exactly these flags, as long as what must be counted can be
counted (`resolvedFlags_eq_true_iff`).
-/

namespace FrontPage

/-! ## Candidates -/

section

variable {config : LayoutConfig} {roster : Roster} {table : Table} {record : Record} {flag : Flag} {layout : Layout}

/-- What is looked up about a candidate is what belongs to it. -/
theorem lookup_candidates (h : flag.claim config record = .limited layout) (f : Flag × Layout → Bool) :
    ((candidates config record).map fun c => (c.1, f c)).lookup flag = some (f (flag, layout)) := by
  have hmem : flag ∈ Flag.all := Numbered.mem_list flag
  rw [candidates]
  generalize Flag.all = flags at hmem ⊢
  induction flags with
  | nil => exact absurd hmem List.not_mem_nil
  | cons other rest ih =>
    by_cases ho : other = flag
    · subst ho
      simp [h]
    · have hrest := ih ((List.mem_cons.mp hmem).resolve_left (Ne.symm ho))
      have hne : (flag == other) = false := beq_eq_false_iff_ne.mpr (Ne.symm ho)
      rw [List.filterMap_cons]
      cases other.claim config record with
      | settled held => exact hrest
      | limited layout' =>
        rw [List.map_cons, List.lookup_cons, hne]
        exact hrest

/-- A flag that is left to a count is a candidate. -/
theorem mem_candidates (h : flag.claim config record = .limited layout) : (flag, layout) ∈ candidates config record := by
  rw [candidates, List.mem_filterMap]
  exact ⟨flag, Numbered.mem_list flag, by rw [h]⟩

/-- A candidate is a flag that is left to a count. -/
theorem claim_of_mem_candidates (h : (flag, layout) ∈ candidates config record) :
    flag.claim config record = .limited layout := by
  obtain ⟨candidate, -, hclaim⟩ := List.mem_filterMap.mp h
  cases hc : candidate.claim config record with
  | settled held =>
    rw [hc] at hclaim
    cases hclaim
  | limited limiting =>
    rw [hc] at hclaim
    cases hclaim
    exact hc

/-- If a flag is left to a count, it can be counted: with all candidates at once, or for itself. -/
def CountSucceeds (config : LayoutConfig) (roster : Roster) (record : Record) (flag : Flag) : Prop :=
  ∀ layout, flag.claim config record = .limited layout →
    (∃ counts, roster.countFlags ((candidates config record).map (·.1)) (Record.get record idColumn) = .ok counts) ∨
      ∃ count, roster.countFlag flag (Record.get record idColumn) = .ok count

/-- With the count of all candidates in order, every flag can be counted. -/
theorem countSucceeds_of_inOrder (htable : roster.table = some table) (hin : roster.outage .countFlags = none)
    (hid : refusal? (Record.get record idColumn) = none) : CountSucceeds config roster record flag :=
  fun _ _ => .inl (Roster.exists_countFlags htable hin hid _)

/-- A flag that is settled without a count. -/
theorem resolvedFlags_of_settled (roster : Roster) {held : Bool} (h : flag.claim config record = .settled held) :
    (resolvedFlags config roster record).get flag = held := by
  rw [resolvedFlags, resolveFlags, Slots.get_ofFn, h]

/-- A flag that is left to a count is held if the layout has room for one more than are counted. -/
theorem resolvedFlags_of_limited (htable : roster.table = some table) (h : flag.claim config record = .limited layout)
    (hcount : CountSucceeds config roster record flag) :
    (resolvedFlags config roster record).get flag =
      layout.hasRoom (Roster.holders table (.ofValue (Record.get record idColumn)) flag) := by
  have hne : (candidates config record).isEmpty = false := by
    rw [List.isEmpty_eq_false_iff_exists_mem]
    exact ⟨_, mem_candidates h⟩
  rw [resolvedFlags, resolveFlags, Slots.get_ofFn, h]
  simp only [hne, Bool.false_eq_true, if_false, decideCandidates]
  cases hbatch : roster.countFlags ((candidates config record).map (·.1)) (Record.get record idColumn) with
  | ok counts =>
    rw [admitAll, lookup_candidates h, Option.getD_some, Roster.countFlags_eq_ok htable hbatch,
      List.lookup_graph _ (List.mem_map_of_mem (mem_candidates h)), Option.getD_some]
  | error cause =>
    rw [admitAll, lookup_candidates h, Option.getD_some, admitOne]
    rcases hcount layout h with ⟨counts, hc⟩ | ⟨count, hc⟩
    · rw [hbatch] at hc
      cases hc
    · rw [hc, Roster.countFlag_eq_ok htable hc]

end

/-! ## Memberships -/

/-- A record gets a flag when so many other articles hold it. A highlight goes to the records that say yes, and an
article group to those that its layout takes; a layout with a positive limit must have room for one more. -/
def BelongsTo (config : LayoutConfig) (record : Record) (others : Nat) : Flag → Prop
  | .highlight slot =>
    (∃ s, Record.get record (Flag.highlight slot).column = .text s ∧
      Text.lower (String.ofList (Text.trim s.toList)) = "yes") ∧
    ∀ layout, ∀ limit : Nat, LastNamed config.active (Flag.highlight slot).layoutName layout →
      layout.limit = .int limit → 0 < limit → others < limit
  | .articleGroup slot =>
    ∃ layout, ∃ limit : Nat, LastNamed config.active (Flag.articleGroup slot).layoutName layout ∧
      (layout.clause.holds = false ∨ Clause.selects layout.clause record = true) ∧
      layout.limit = .int limit ∧ (limit = 0 ∨ others < limit)

/-- A value says yes if it is a text that does. -/
theorem Value.isYes_iff {value : Value} :
    value.isYes = true ↔ ∃ s, value = .text s ∧ Text.lower (String.ofList (Text.trim s.toList)) = "yes" := by
  cases value <;> simp [Value.isYes]

/-- The layout of an article group has the name of one. -/
theorem Flag.begins_layoutName (slot : Fin 9) : Text.begins "ArticleGroup" (Flag.articleGroup slot).layoutName = true := by
  revert slot
  decide +kernel

/-- A layout with a whole number as its limit settles a flag, or leaves it to a count, by whether that is zero. -/
theorem Layout.claim_of_limit {layout : Layout} {limit : Nat} (h : layout.limit = .int limit) :
    layout.claim = if limit = 0 then .settled true else .limited layout := by
  rw [Layout.claim, h]
  by_cases hl : limit = 0
  · have hn : ¬(Number.int (limit : Int)).isPositive = true := by
      rw [Number.isPositive_int]
      omega
    rw [if_neg hn, if_pos hl]
  · rw [if_pos (Number.isPositive_int.mpr (by omega)), if_neg hl]

/-- A layout with a whole number as its limit has room for one more if fewer are counted. -/
theorem Layout.hasRoom_iff {layout : Layout} {limit : Nat} (h : layout.limit = .int limit) {count : Nat} :
    layout.hasRoom count = true ↔ count < limit := by
  rw [Layout.hasRoom, h, Number.less_int]
  omega

section

variable {document : Value} {config : LayoutConfig} {roster : Roster} {table : Table} {record : Record} {flag : Flag}

/-- A flag that a layout with a limit is asked about is held if the limit is zero or above what is counted. -/
theorem resolvedFlags_of_claim {layout : Layout} {limit : Nat} (hlimit : layout.limit = .int limit)
    (h : flag.claim config record = layout.claim) (htable : roster.table = some table)
    (hcount : CountSucceeds config roster record flag) :
    (resolvedFlags config roster record).get flag = true ↔
      limit = 0 ∨ Roster.holders table (.ofValue (Record.get record idColumn)) flag < limit := by
  rw [Layout.claim_of_limit hlimit] at h
  by_cases hl : limit = 0
  · rw [if_pos hl] at h
    rw [resolvedFlags_of_settled roster h]
    exact ⟨fun _ => .inl hl, fun _ => rfl⟩
  · rw [if_neg hl] at h
    rw [resolvedFlags_of_limited htable h hcount, Layout.hasRoom_iff hlimit]
    exact ⟨.inr, fun hor => hor.resolve_left hl⟩

/-- **A classification resolves the flags that belong to the record**, where they can be counted. -/
theorem resolvedFlags_eq_true_iff (hdocument : LayoutConfig.ofDocument document = .ok config)
    (htable : roster.table = some table) (hcount : CountSucceeds config roster record flag) :
    (resolvedFlags config roster record).get flag = true ↔
      BelongsTo config record (Roster.holders table (.ofValue (Record.get record idColumn)) flag) flag := by
  have hlimits {layout : Layout} {name : String} (h : LastNamed config.active name layout) :
      ∃ limit : Nat, layout.limit = .int limit := by
    obtain ⟨before, behind, hl, -⟩ := h
    exact LayoutConfig.limit_of_mem_ofDocument hdocument (by simp [hl])
  cases flag with
  | highlight slot =>
    rw [BelongsTo, ← Value.isYes_iff]
    cases hyes : (Record.get record (Flag.highlight slot).column).isYes with
    | false =>
      have hclaim : (Flag.highlight slot).claim config record = .settled false := by simp [Flag.claim, hyes]
      rw [resolvedFlags_of_settled roster hclaim]
      simp
    | true =>
      cases hlayout : config.byName? (Flag.highlight slot).layoutName with
      | none =>
        have hclaim : (Flag.highlight slot).claim config record = .settled true := by simp [Flag.claim, hyes, hlayout]
        rw [resolvedFlags_of_settled roster hclaim]
        refine ⟨fun _ => ⟨rfl, fun layout limit hlast _ _ => ?_⟩, fun _ => rfl⟩
        rw [← LayoutConfig.byName?_eq_some_iff, hlayout] at hlast
        cases hlast
      | some layout =>
        have hclaim : (Flag.highlight slot).claim config record = layout.claim := by simp [Flag.claim, hyes, hlayout]
        have hlast := LayoutConfig.byName?_eq_some_iff.mp hlayout
        obtain ⟨limit, hlimit⟩ := hlimits hlast
        rw [resolvedFlags_of_claim hlimit hclaim htable hcount]
        constructor
        · refine fun hroom => ⟨rfl, fun other limit' hother hlimit' hpos => ?_⟩
          rw [LayoutConfig.lastNamed_unique hlast hother] at hlimit'
          have heq := Number.int.inj (hlimit.symm.trans hlimit')
          omega
        · rintro ⟨-, hroom⟩
          rcases Nat.eq_zero_or_pos limit with hzero | hpos
          · exact .inl hzero
          · exact .inr (hroom layout limit hlast hlimit hpos)
  | articleGroup slot =>
    rw [BelongsTo]
    cases hlayout : config.group? (Flag.articleGroup slot).layoutName with
    | none =>
      have hclaim : (Flag.articleGroup slot).claim config record = .settled false := by simp [Flag.claim, hlayout]
      rw [resolvedFlags_of_settled roster hclaim]
      constructor
      · intro h
        cases h
      · rintro ⟨layout, limit, hlast, -⟩
        rw [← LayoutConfig.group?_eq_some_iff (Flag.begins_layoutName slot), hlayout] at hlast
        cases hlast
    | some layout =>
      have hlast := (LayoutConfig.group?_eq_some_iff (Flag.begins_layoutName slot)).mp hlayout
      obtain ⟨limit, hlimit⟩ := hlimits hlast
      have htakes : layout.takes record = true ↔
          layout.clause.holds = false ∨ Clause.selects layout.clause record = true := by
        simp [Layout.takes]
      cases ht : layout.takes record with
      | false =>
        have hclaim : (Flag.articleGroup slot).claim config record = .settled false := by simp [Flag.claim, hlayout, ht]
        rw [resolvedFlags_of_settled roster hclaim]
        constructor
        · intro h
          cases h
        · rintro ⟨other, limit', hother, hselects, -⟩
          rw [LayoutConfig.lastNamed_unique hlast hother, ← htakes, ht] at hselects
          cases hselects
      | true =>
        have hclaim : (Flag.articleGroup slot).claim config record = layout.claim := by simp [Flag.claim, hlayout, ht]
        rw [resolvedFlags_of_claim hlimit hclaim htable hcount]
        constructor
        · intro hroom
          exact ⟨layout, limit, hlast, htakes.mp ht, hlimit, hroom⟩
        · rintro ⟨other, limit', hother, -, hlimit', hroom⟩
          rw [LayoutConfig.lastNamed_unique hlast hother] at hlimit'
          have heq := Number.int.inj (hlimit.symm.trans hlimit')
          omega

/-- **What a classification that gives flags does.** Its flags have the columns of all flags and say of each whether it
belongs to the record; afterwards the article has a row if and only if it has a flag, and the row carries the flags. -/
theorem classify_memberships (hdocument : LayoutConfig.ofDocument document = .ok config)
    (htable : roster.table = some table) {id : Int} (hid : Record.get record idColumn = .int id)
    (hcount : ∀ flag, CountSucceeds config roster record flag) {operation : Operation} {now : Value} {flags : FlagSet}
    (hflags : (classify config roster record operation now).flags = some flags) :
    flags.record.map Prod.fst = Flag.all.map Flag.column ∧
    (∀ flag : Flag, Record.get? flags.record flag.column = some (.text "Yes") ∧
        BelongsTo config record ((table.holders flag).erase id).card flag ∨
      Record.get? flags.record flag.column = some (.text "No") ∧
        ¬BelongsTo config record ((table.holders flag).erase id).card flag) ∧
    ∃ after, (classify config roster record operation now).roster.table = some after ∧
      ((after.find? id).isSome = true ↔
        ∃ flag : Flag, Record.get? flags.record flag.column = some (.text "Yes")) ∧
      ∀ row, after.find? id = some row → ∀ flag : Flag,
        some (row.get (.flag flag)).toValue = Record.get? flags.record flag.column := by
  obtain ⟨after, hroster, heffect⟩ := classify_effect config htable record operation now
  rw [hflags] at heffect
  have hterm : IdTerm.ofValue (Record.get record idColumn) = .exactly id := by
    rw [hid]
    rfl
  have hbelongs (flag : Flag) : flags.get flag = true ↔
      BelongsTo config record ((table.holders flag).erase id).card flag := by
    rw [heffect.of_given.1, resolvedFlags_eq_true_iff hdocument htable (hcount flag), hterm, Roster.holders_exactly]
  have hword (flag : Flag) : Record.get? flags.record flag.column = some (.text "Yes") ↔ flags.get flag = true := by
    rw [flags.get?_record]
    cases flags.get flag <;> simp [Flag.word]
  obtain ⟨hrow, hcarries⟩ := heffect.row_iff hterm
  refine ⟨flags.map_fst_record, fun flag => ?_, after, by rw [hroster], ?_, fun row hfind flag => ?_⟩
  · cases hheld : flags.get flag with
    | true => exact .inl ⟨(hword flag).mpr hheld, (hbelongs flag).mp hheld⟩
    | false =>
      refine .inr ⟨?_, fun hb => ?_⟩
      · rw [flags.get?_record, hheld]
        rfl
      · rw [(hbelongs flag).mpr hb] at hheld
        cases hheld
  · rw [hrow, FlagSet.any_eq_true_iff]
    exact exists_congr fun flag => (hword flag).symm
  · rw [hcarries row hfind flag, flags.get?_record]
    rfl

end

/-- Layouts of a highlight with room for one article and of a group of the articles for the home page. -/
def homeDocument : Value :=
  .list
    [.record [("layout_name", .text "Highlight1"), ("active", .text "yes"), ("layout_limit", .int 1)],
     .record [("layout_name", .text "ArticleGroup2"), ("active", .bool true), ("where_clause", .text "menu = 'Home'")]]

/-- Another article holds the highlight. -/
def homeTable : Table := Table.empty.put 7 (Roster.newRow [("highlight1_flag", .text "Yes")])

/-- An article that wants both. -/
def homeRecord : Record := [("article_id", .int 5), ("highlight1_flag", .text " YES "), ("menu", .text "Home")]

/-- The article gets the group only. -/
theorem classify_memberships_home : ∃ config flags, LayoutConfig.ofDocument homeDocument = .ok config ∧
    (classify config { table := some homeTable } homeRecord .update (.int 0)).flags = some flags ∧
    Record.get? flags.record "highlight1_flag" = some (.text "No") ∧
    ¬BelongsTo config homeRecord ((homeTable.holders (.highlight 0)).erase 5).card (.highlight 0) ∧
    BelongsTo config homeRecord ((homeTable.holders (.articleGroup 1)).erase 5).card (.articleGroup 1) := by
  have hrun : ((LayoutConfig.ofDocument homeDocument).toOption.bind fun config =>
      (classify config { table := some homeTable } homeRecord .update (.int 0)).flags.map fun flags =>
        (flags.get (.highlight 0), flags.get (.articleGroup 1))) = some (false, true) := by decide +kernel
  obtain ⟨config, hconfig, hrun⟩ := Option.bind_eq_some_iff.mp hrun
  obtain ⟨flags, hflags, hheld⟩ := Option.map_eq_some_iff.mp hrun
  have hdocument : LayoutConfig.ofDocument homeDocument = .ok config := by
    cases hd : LayoutConfig.ofDocument homeDocument with
    | error cause =>
      rw [hd] at hconfig
      cases hconfig
    | ok other =>
      rw [hd] at hconfig
      cases hconfig
      rfl
  have hall := (classify_memberships hdocument rfl rfl (fun _ => countSucceeds_of_inOrder rfl rfl rfl) hflags).2.1
  have hhighlight := flags.get?_record (.highlight 0)
  have hgroup := flags.get?_record (.articleGroup 1)
  rw [(Prod.mk.inj hheld).1] at hhighlight
  rw [(Prod.mk.inj hheld).2] at hgroup
  refine ⟨config, flags, hdocument, hflags, hhighlight, ?_, ?_⟩
  · refine ((hall (.highlight 0)).resolve_left fun h => ?_).2
    rw [hhighlight] at h
    exact absurd h.1 (by simp [Flag.word])
  · refine ((hall (.articleGroup 1)).resolve_right fun h => ?_).2
    rw [hgroup] at h
    exact absurd h.1 (by simp [Flag.word])

end FrontPage
