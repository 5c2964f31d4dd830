import FrontPage.Proofs.Classification.Call
import Mathlib.Logic.Relation

/-!
# Capacity

A call that goes by a positive limit for a flag admits its article only where fewer others hold the flag
(`Call.card_lt_of_resolved`). So the holders never grow above the limit, whatever else such calls do, in any number and
any order (`capacity_kept`). A call that fails leaves its article as it was even above the limit, and what is not a
number is an article that no count leaves out (`capacity_exceptions`).
-/

namespace FrontPage

/-- The layout of a flag's name settles the flag, unless the record does. -/
theorem Flag.claim_of_lastNamed {config : LayoutConfig} {flag : Flag} {layout : Layout}
    (h : LastNamed config.active flag.layoutName layout) (record : Record) :
    flag.claim config record = .settled false ∨ flag.claim config record = layout.claim := by
  cases flag with
  | highlight slot =>
    rw [Flag.claim, LayoutConfig.byName?_eq_some_iff.mpr h]
    split
    · exact .inr rfl
    · exact .inl rfl
  | articleGroup slot =>
    rw [Flag.claim, (LayoutConfig.group?_eq_some_iff (Flag.begins_layoutName slot)).mpr h]
    dsimp only
    split
    · exact .inr rfl
    · exact .inl rfl

/-- Without a layout of a flag's name the flag is settled. -/
theorem Flag.claim_of_byName?_eq_none {config : LayoutConfig} {flag : Flag}
    (h : config.byName? flag.layoutName = none) (record : Record) :
    flag.claim config record = .settled false ∨ flag.claim config record = .settled true := by
  cases flag with
  | highlight slot =>
    rw [Flag.claim, h]
    split
    · exact .inr rfl
    · exact .inl rfl
  | articleGroup slot =>
    rw [Flag.claim, LayoutConfig.group?_eq_byName? (Flag.begins_layoutName slot), h]
    exact .inl rfl

namespace Call

/-- The call goes by a limit for a flag: that of the last active layout of the flag's name. -/
def Sees (call : Call) (flag : Flag) (limit : Nat) : Prop :=
  ∃ layout, LastNamed call.config.active flag.layoutName layout ∧ layout.limit = .int limit

/-- The call goes by a limit for a flag, can count the flag if it gets to that, and is about an article whose identifier
is not the number that is none. -/
structure Limited (call : Call) (flag : Flag) (limit : Nat) (table : Table) : Prop where
  sees : call.Sees flag limit
  counts : call.operation ≠ .delete → (Record.get call.record idColumn).holds = true →
    CountSucceeds call.config (call.roster table) call.record flag
  isNumber : Record.get call.record idColumn ≠ .number (.float .nan)

variable {call : Call} {flag : Flag} {limit : Nat} {table : Table}

/-- A call that can count a flag resolves it for its article only if fewer others hold it than the limit. -/
theorem lt_of_resolved (hsees : call.Sees flag limit) (hpos : 0 < limit)
    (hcounts : CountSucceeds call.config (call.roster table) call.record flag)
    (hheld : (call.resolved table).get flag = true) : Roster.holders table call.term flag < limit := by
  obtain ⟨layout, hlast, hlimit⟩ := hsees
  rcases Flag.claim_of_lastNamed hlast call.record with hclaim | hclaim
  · rw [resolved, resolvedFlags_of_settled _ hclaim] at hheld
    cases hheld
  · rw [Layout.claim_of_limit hlimit, if_neg (Nat.pos_iff_ne_zero.mp hpos)] at hclaim
    rw [resolved, resolvedFlags_of_limited rfl hclaim hcounts, Layout.hasRoom_iff hlimit] at hheld
    exact hheld

/-- An article gets a flag only if fewer others hold it than the limit. -/
theorem card_lt_of_resolved (h : call.Limited flag limit table) (hpos : 0 < limit) (hdone : call.Done table)
    (hop : call.operation ≠ .delete) (hheld : (call.resolved table).get flag = true) :
    Roster.holders table call.term flag < limit :=
  lt_of_resolved h.sees hpos (h.counts hop (holds_of_done hdone)) hheld

/-- An article that gets a flag, or keeps it, has fewer others beside it than the limit. -/
theorem card_erase_lt_of_held (h : call.Limited flag limit table) (hpos : 0 < limit) (hdone : call.Done table) {id : Int}
    (hid : call.term = .exactly id) (hheld : call.operation ≠ .delete ∧ (call.resolved table).get flag = true) :
    ((table.holders flag).erase id).card < limit := by
  have hlt := card_lt_of_resolved h hpos hdone hheld.1 hheld.2
  rwa [hid, Roster.holders_exactly] at hlt

/-- If the article of a call that was carried out holds a flag afterwards, the limit is kept. -/
theorem card_le_of_mem (h : call.Limited flag limit table) (hpos : 0 < limit) (hdone : call.Done table) {id : Int}
    (hid : call.term = .exactly id) (hm : id ∈ (call.after table).holders flag) :
    ((call.after table).holders flag).card ≤ limit := by
  rw [(call.effect table).holders_of_done hdone hid] at hm ⊢
  split at hm
  · next hheld =>
    rw [if_pos hheld, card_insert_eq]
    exact card_erase_lt_of_held h hpos hdone hid hheld
  · exact absurd hm (Finset.notMem_erase id _)

/-- Whatever a call does, the holders do not grow above the limit. -/
theorem card_le_max (h : call.Limited flag limit table) (hpos : 0 < limit) :
    ((call.after table).holders flag).card ≤ max limit (table.holders flag).card := by
  by_cases hdone : call.Done table
  · by_cases hnamed : ∃ id, call.term = .exactly id
    · obtain ⟨id, hid⟩ := hnamed
      rw [(call.effect table).holders_of_done hdone hid]
      split
      · next hheld =>
        rw [card_insert_eq]
        exact le_max_of_le_left (card_erase_lt_of_held h hpos hdone hid hheld)
      · exact le_max_of_le_right (Finset.card_le_card (Finset.erase_subset _ _))
    · rw [(call.effect table).eq_of_unnamed (not_exists.mp hnamed) h.isNumber]
      exact le_max_right _ _
  · rw [(call.effect table).eq_of_undone hdone]
    exact le_max_right _ _

end Call

/-- One table comes from another by a call that goes by a limit for a flag. -/
def LimitedStep (flag : Flag) (limit : Nat) (table after : Table) : Prop :=
  ∃ call : Call, call.Limited flag limit table ∧ after = call.after table

/-- **The capacity of a flag is kept.** After a call that was carried out and whose article holds the flag, no more
articles hold it than the limit; whatever a call does, the holders do not grow above the limit; and no run of calls that
starts with no more holders than the limit ever has more. -/
theorem capacity_kept (flag : Flag) {limit : Nat} (hpos : 0 < limit) :
    (∀ (call : Call) (table : Table), call.Limited flag limit table →
      (∀ id, call.term = .exactly id → call.Done table → id ∈ (call.after table).holders flag →
        ((call.after table).holders flag).card ≤ limit) ∧
      ((call.after table).holders flag).card ≤ max limit (table.holders flag).card) ∧
    ∀ table after : Table, (table.holders flag).card ≤ limit →
      Relation.ReflTransGen (LimitedStep flag limit) table after → (after.holders flag).card ≤ limit := by
  refine ⟨fun call table h => ⟨fun id hid hdone hm => ?_, ?_⟩, fun table after hstart hrun => ?_⟩
  · exact Call.card_le_of_mem h hpos hdone hid hm
  · exact Call.card_le_max h hpos
  · induction hrun with
    | refl => exact hstart
    | @tail between after _ hstep ih =>
      obtain ⟨call, h, rfl⟩ := hstep
      exact (Call.card_le_max h hpos).trans (max_le (le_refl limit) ih)

/-- An update of an article under a group with room for one. -/
def groupCall (id : Value) : Call where
  config := ⟨[{ name := "ArticleGroup1", limit := .int 1 }]⟩
  record := [("article_id", id)]
  operation := .update
  now := .int 0

/-- The group is a limit for such a call. -/
theorem sees_groupCall (id : Value) : (groupCall id).Sees (.articleGroup 0) 1 :=
  ⟨{ name := "ArticleGroup1", limit := .int 1 }, ⟨[], [], rfl, by decide, by simp⟩, rfl⟩

/-- Of two articles that are updated one after the other, the first one holds the group. -/
theorem capacity_kept_groupCall :
    (((groupCall (.int 6)).after ((groupCall (.int 5)).after .empty)).holders (.articleGroup 0)).card ≤ 1 ∧
      5 ∈ ((groupCall (.int 6)).after ((groupCall (.int 5)).after .empty)).holders (.articleGroup 0) := by
  have hfirst : (groupCall (.int 5)).Limited (.articleGroup 0) 1 .empty :=
    ⟨sees_groupCall _, fun _ _ => countSucceeds_of_inOrder rfl rfl rfl, nofun⟩
  have hsecond : (groupCall (.int 6)).Limited (.articleGroup 0) 1 ((groupCall (.int 5)).after .empty) :=
    ⟨sees_groupCall _, fun _ _ => countSucceeds_of_inOrder rfl rfl rfl, nofun⟩
  have hrun : Relation.ReflTransGen (LimitedStep (.articleGroup 0) 1) .empty
      ((groupCall (.int 6)).after ((groupCall (.int 5)).after .empty)) :=
    (Relation.ReflTransGen.single ⟨_, hfirst, rfl⟩).tail ⟨_, hsecond, rfl⟩
  exact ⟨(capacity_kept (.articleGroup 0) Nat.one_pos).2 .empty _ (by decide +kernel) hrun, by decide +kernel⟩

/-- Two articles that hold a highlight. -/
def crowdedTable : Table :=
  (Table.empty.put 1 (Roster.newRow [("highlight1_flag", .text "Yes")])).put 2
    (Roster.newRow [("highlight1_flag", .text "Yes")])

/-- An update of the first of them under a highlight with room for one, while no article can be removed. -/
def stuckCall : Call where
  config := ⟨[{ name := "Highlight1", limit := .int 1 }]⟩
  record := [("article_id", .int 1), ("highlight1_flag", .text "yes")]
  operation := .update
  now := .int 0
  outage query := if query = .delete then some "boom" else none

/-- A call that fails can leave its article among too many holders. The holders can grow above the limit where the
identifier of an article is not a number, as then no row is counted as another's and there is always a new one. -/
theorem capacity_exceptions :
    (stuckCall.Sees (.highlight 0) 1 ∧
      CountSucceeds stuckCall.config (stuckCall.roster crowdedTable) stuckCall.record (.highlight 0) ∧
      1 ∈ (stuckCall.after crowdedTable).holders (.highlight 0) ∧
      ((stuckCall.after crowdedTable).holders (.highlight 0)).card = 2) ∧
    ((groupCall (.number (.float .nan))).Sees (.articleGroup 0) 1 ∧
      (∀ table, CountSucceeds (groupCall (.number (.float .nan))).config
        ((groupCall (.number (.float .nan))).roster table) (groupCall (.number (.float .nan))).record
          (.articleGroup 0)) ∧
      (((groupCall (.number (.float .nan))).after .empty).holders (.articleGroup 0)).card = 1 ∧
      (((groupCall (.number (.float .nan))).after ((groupCall (.number (.float .nan))).after .empty)).holders
        (.articleGroup 0)).card = 2) := by
  refine ⟨⟨?_, ?_, ?_, ?_⟩, sees_groupCall _, fun table => ?_, ?_, ?_⟩
  · exact ⟨{ name := "Highlight1", limit := .int 1 }, ⟨[], [], rfl, by decide, by simp⟩, rfl⟩
  · exact countSucceeds_of_inOrder rfl rfl rfl
  · decide +kernel
  · decide +kernel
  · exact countSucceeds_of_inOrder rfl rfl rfl
  · decide +kernel
  · decide +kernel

end FrontPage
