import FrontPage.Proofs.Classification.History
import Mathlib.Data.List.DropRight

/-!
# Too many holders

While more articles hold a flag than its limit allows, a call takes the flag from the holder that it is about
(`Call.holders_of_over`), and no other article gets it (`Call.holders_of_notMem`). Once as many hold it as the limit, a
holder keeps it (`Call.holders_of_kept`). So of all holders that are saved again, the first ones lose the flag until the
limit is reached (`Call.holders_afterAll`), and the last ones keep it (`overshoot_corrected`).
-/

namespace FrontPage

/-! ## One call -/

namespace Call

/-- The call was carried out and saved an article that is a candidate for a flag. -/
structure Resaves (call : Call) (flag : Flag) (table : Table) : Prop where
  saved : call.operation ≠ .delete
  candidate : ∃ layout, (flag, layout) ∈ candidates call.config call.record
  done : call.Done table

section

variable {call : Call} {flag : Flag} {limit : Nat} {table : Table} {id : Int}

/-- A candidate gets a flag if fewer others hold it than the limit. -/
theorem resolved_of_lt (h : call.Limited flag limit table) (hsave : call.Resaves flag table)
    (hlt : Roster.holders table call.term flag < limit) : (call.resolved table).get flag = true := by
  obtain ⟨limiting, hm⟩ := hsave.candidate
  have hclaim := claim_of_mem_candidates hm
  obtain ⟨seen, hlast, hlimit⟩ := h.sees
  have hseen : limiting = seen := by
    rcases Flag.claim_of_lastNamed hlast call.record with hsettled | hlayout
    · rw [hclaim] at hsettled
      cases hsettled
    · rw [hclaim, Layout.claim] at hlayout
      split at hlayout
      · exact Claim.limited.inj hlayout
      · cases hlayout
  have hcounts := h.counts hsave.saved (holds_of_done hsave.done)
  rw [resolved, resolvedFlags_of_limited rfl hclaim hcounts, hseen, Layout.hasRoom_iff hlimit]
  exact hlt

/-- **Only a holder loses a flag that has no room**, and no article gets it. -/
theorem holders_of_notMem (h : call.Limited flag limit table) (hpos : 0 < limit)
    (hfull : limit ≤ (table.holders flag).card) (hnot : ∀ id, call.term = .exactly id → id ∉ table.holders flag) :
    (call.after table).holders flag = table.holders flag := by
  by_cases hdone : call.Done table
  · by_cases hnamed : ∃ id, call.term = .exactly id
    · obtain ⟨id, hid⟩ := hnamed
      have herase := Finset.erase_eq_of_notMem (hnot id hid)
      rw [(call.effect table).holders_of_done hdone hid]
      split
      · next hheld =>
        have hlt := card_erase_lt_of_held h hpos hdone hid hheld
        rw [herase] at hlt
        omega
      · exact herase
    · rw [(call.effect table).eq_of_unnamed (not_exists.mp hnamed) h.isNumber]
  · rw [(call.effect table).eq_of_undone hdone]

/-- **A holder loses a flag of which there are too many holders.** -/
theorem holders_of_over (h : call.Limited flag limit table) (hpos : 0 < limit)
    (hover : limit < (table.holders flag).card) (hdone : call.Done table) (hid : call.term = .exactly id) :
    (call.after table).holders flag = (table.holders flag).erase id := by
  rw [(call.effect table).holders_of_done hdone hid, if_neg]
  intro hheld
  have hlt := card_erase_lt_of_held h hpos hdone hid hheld
  have hcard : (table.holders flag).card - 1 ≤ ((table.holders flag).erase id).card := Finset.pred_card_le_card_erase
  omega

/-- **A holder keeps a flag of which there are not too many holders.** -/
theorem holders_of_kept (h : call.Limited flag limit table) (hfew : (table.holders flag).card ≤ limit)
    (hsave : call.Resaves flag table) (hid : call.term = .exactly id) (hm : id ∈ table.holders flag) :
    (call.after table).holders flag = table.holders flag := by
  have hlt : Roster.holders table call.term flag < limit := by
    rw [hid, Roster.holders_exactly]
    exact (Finset.card_erase_lt_of_mem hm).trans_le hfew
  rw [(call.effect table).holders_of_done hsave.done hid, if_pos ⟨hsave.saved, resolved_of_lt h hsave hlt⟩]
  exact Finset.insert_eq_of_mem hm

end

/-! ## All holders -/

/-- The article that a call names by a whole number. -/
def articleId? (call : Call) : Option Int :=
  match call.term with
  | .exactly id => some id
  | _ => none

theorem articleId?_eq_some_iff {call : Call} {id : Int} : call.articleId? = some id ↔ call.term = .exactly id := by
  rw [articleId?]
  cases call.term <;> simp

/-- Which of some articles the calls are about, in the order of the calls. -/
def saves (calls : List Call) (articles : Finset Int) : List Int :=
  (calls.filterMap articleId?).filter (· ∈ articles)

/-- All calls go by a limit for a flag, and those that are about a holder save it as a candidate. -/
def AllResave (flag : Flag) (limit : Nat) : List Call → Table → Prop
  | [], _ => True
  | call :: rest, table => call.Limited flag limit table ∧
      (∀ id ∈ table.holders flag, call.term = .exactly id → call.Resaves flag table) ∧
      AllResave flag limit rest (call.after table)

section

variable {call : Call} {calls rest : List Call} {flag : Flag} {limit : Nat} {table : Table} {id : Int}
  {articles : Finset Int}

theorem saves_cons_of_mem (hid : call.term = .exactly id) (hm : id ∈ articles) :
    saves (call :: rest) articles = id :: saves rest articles := by
  rw [saves, List.filterMap_cons_some (articleId?_eq_some_iff.mpr hid), List.filter_cons_of_pos (by simpa using hm)]
  rfl

theorem saves_cons_of_notMem (hnot : ∀ id, call.term = .exactly id → id ∉ articles) :
    saves (call :: rest) articles = saves rest articles := by
  rw [saves]
  cases hid : call.articleId? with
  | none => rw [List.filterMap_cons_none hid, saves]
  | some id =>
    have hm := hnot id (articleId?_eq_some_iff.mp hid)
    rw [List.filterMap_cons_some hid, List.filter_cons_of_neg (by simpa using hm), saves]

/-- An article that no call is about may be left out. -/
theorem saves_erase (h : id ∉ saves rest articles) : saves rest (articles.erase id) = saves rest articles := by
  rw [saves, saves]
  apply List.filter_congr
  intro other hother
  by_cases he : other = id
  · have hnot : id ∉ articles := fun hm => h (List.mem_filter.mpr ⟨he ▸ hother, by simpa using hm⟩)
    simp [he, hnot]
  · simp [he]

/-- **The holders that are saved first lose the flag**, as many as there are too many. -/
theorem holders_afterAll (hpos : 0 < limit) (hfull : limit ≤ (table.holders flag).card)
    (hnodup : (saves calls (table.holders flag)).Nodup) (h : AllResave flag limit calls table) :
    (afterAll calls table).holders flag = table.holders flag \
      ((saves calls (table.holders flag)).take ((table.holders flag).card - limit)).toFinset := by
  induction calls generalizing table with
  | nil => simp [afterAll, saves]
  | cons call rest ih =>
    obtain ⟨hlimited, hresaves, hrest⟩ := h
    rw [afterAll, List.foldl_cons, ← afterAll]
    by_cases hm : ∃ id ∈ table.holders flag, call.term = .exactly id
    · obtain ⟨id, hin, hid⟩ := hm
      have hsave := hresaves id hin hid
      rw [saves_cons_of_mem hid hin] at hnodup ⊢
      obtain ⟨hfirst, hlater⟩ := List.nodup_cons.mp hnodup
      rcases hfull.lt_or_eq with hover | hexact
      · -- The holder loses the flag, and one fewer is too many.
        have hafter := holders_of_over hlimited hpos hover hsave.done hid
        have hcard : ((table.holders flag).erase id).card = (table.holders flag).card - 1 :=
          Finset.card_erase_of_mem hin
        have hone : (table.holders flag).card - limit = ((table.holders flag).card - 1 - limit) + 1 := by omega
        have hrun := ih (by rw [hafter]; omega) (by rw [hafter, saves_erase hfirst]; exact hlater) hrest
        rw [hrun, hafter, saves_erase hfirst, hcard, hone, List.take_succ_cons, List.toFinset_cons,
          Finset.erase_sdiff_comm, Finset.sdiff_insert]
      · -- None are too many, and all keep the flag.
        have hafter := holders_of_kept hlimited hexact.ge hsave hid hin
        have hrun := ih (by rw [hafter]; exact hfull) (by rw [hafter]; exact hlater) hrest
        rw [hrun, hafter, ← hexact, Nat.sub_self, List.take_zero, List.take_zero]
    · have hnot : ∀ id, call.term = .exactly id → id ∉ table.holders flag := fun id hid hin => hm ⟨id, hin, hid⟩
      have hafter := holders_of_notMem hlimited hpos hfull hnot
      rw [saves_cons_of_notMem hnot] at hnodup ⊢
      have hrun := ih (by rw [hafter]; exact hfull) (by rw [hafter]; exact hnodup) hrest
      rw [hrun, hafter]

/-- Where each article is saved once, the calls save just these. -/
theorem saves_of_count (h : ∀ id ∈ articles, (calls.filterMap articleId?).count id = 1) :
    (saves calls articles).Nodup ∧ (saves calls articles).toFinset = articles := by
  have hcount {id : Int} (hid : id ∈ articles) : (saves calls articles).count id = 1 := by
    rw [saves, List.count_filter (by simpa using hid)]
    exact h id hid
  constructor
  · rw [List.nodup_iff_count_le_one]
    intro id
    by_cases hid : id ∈ articles
    · exact (hcount hid).le
    · have hnot : id ∉ saves calls articles := fun hm => hid (by simpa using (List.mem_filter.mp hm).2)
      rw [List.count_eq_zero.mpr hnot]
      exact Nat.zero_le 1
  · ext id
    rw [List.mem_toFinset]
    constructor
    · intro hm
      simpa using (List.mem_filter.mp hm).2
    · intro hid
      apply List.count_pos_iff.mp
      rw [hcount hid]
      exact Nat.one_pos

end

end Call

/-- Without its first elements, a list without repetitions has the others. -/
theorem toFinset_sdiff_take {as : List Int} (h : as.Nodup) (n : Nat) :
    as.toFinset \ (as.take n).toFinset = (as.drop n).toFinset := by
  have hdisjoint := List.disjoint_take_drop h (le_refl n)
  ext a
  rw [Finset.mem_sdiff, List.mem_toFinset, List.mem_toFinset, List.mem_toFinset]
  constructor
  · rintro ⟨hm, hnot⟩
    rw [← List.take_append_drop n as, List.mem_append] at hm
    exact hm.resolve_left hnot
  · intro hm
    exact ⟨List.mem_of_mem_drop hm, fun htake => hdisjoint htake hm⟩

/-- **Too many holders are corrected by saving them again.** While more articles hold a flag than the limit, a save takes
it from the holder that is saved and changes no other row, a call about any other article changes no holder, and no run
of calls makes the holders more. When each of the holders is saved once again, with whatever other calls in between, just
as many as the limit hold the flag, and these are the last ones that were saved. -/
theorem overshoot_corrected (flag : Flag) {limit : Nat} (hpos : 0 < limit) (table : Table)
    (hover : limit < (table.holders flag).card) :
    (∀ (call : Call) (id : Int), call.Limited flag limit table → call.Resaves flag table → call.term = .exactly id →
      (call.after table).holders flag = (table.holders flag).erase id ∧
        ∀ other ≠ id, (call.after table).find? other = table.find? other) ∧
    (∀ call : Call, call.Limited flag limit table → (∀ id, call.term = .exactly id → id ∉ table.holders flag) →
      (call.after table).holders flag = table.holders flag) ∧
    (∀ after : Table, Relation.ReflTransGen (LimitedStep flag limit) table after →
      (after.holders flag).card ≤ (table.holders flag).card) ∧
    ∀ calls : List Call, Call.AllResave flag limit calls table →
      (∀ id ∈ table.holders flag, (calls.filterMap Call.articleId?).count id = 1) →
      ((Call.afterAll calls table).holders flag).card = limit ∧
        (Call.afterAll calls table).holders flag = ((Call.saves calls (table.holders flag)).rtake limit).toFinset := by
  refine ⟨?_, ?_, ?_, ?_⟩
  · intro call id h hsave hid
    refine ⟨Call.holders_of_over h hpos hover hsave.done hid, ?_⟩
    intro other hother
    exact (call.effect table).find?_of_ne hid hother
  · intro call h hnot
    exact Call.holders_of_notMem h hpos hover.le hnot
  · intro after hrun
    induction hrun with
    | refl => exact le_refl _
    | @tail between after _ hstep ih =>
      obtain ⟨call, h, rfl⟩ := hstep
      exact (Call.card_le_max h hpos).trans (max_le hover.le ih)
  · intro calls h honce
    obtain ⟨hnodup, hsaved⟩ := Call.saves_of_count honce
    have hlength : (Call.saves calls (table.holders flag)).length = (table.holders flag).card := by
      rw [← List.toFinset_card_of_nodup hnodup, hsaved]
    have hlast : (Call.afterAll calls table).holders flag =
        ((Call.saves calls (table.holders flag)).rtake limit).toFinset := by
      rw [Call.holders_afterAll hpos hover.le hnodup h, List.rtake, ← toFinset_sdiff_take hnodup, hsaved, hlength]
    refine ⟨?_, hlast⟩
    rw [hlast, List.rtake, List.toFinset_card_of_nodup (hnodup.sublist (List.drop_sublist _ _)), List.length_drop]
    omega

/-- Three articles that hold a group. -/
def fullTable : Table :=
  ((Table.empty.put 1 (Roster.newRow [("articlegroup1_flag", .text "Yes")])).put 2
    (Roster.newRow [("articlegroup1_flag", .text "Yes")])).put 3 (Roster.newRow [("articlegroup1_flag", .text "Yes")])

/-- Updates of them under a layout with room for one, and of a fourth article in between. -/
def fullCalls : List Call := [2, 4, 3, 1].map fun id => groupCall (.int id)

/-- An update under the layout is one of a candidate. -/
theorem resaves_groupCall {id : Int} {table : Table} (hdone : (groupCall (.int id)).Done table) :
    (groupCall (.int id)).Resaves (.articleGroup 0) table := by
  obtain ⟨layout, hlast, hlimit⟩ := sees_groupCall (.int id)
  have hlayout : { name := "ArticleGroup1", limit := .int 1 } = layout :=
    LayoutConfig.lastNamed_unique hlast ⟨[], [], rfl, by decide, by simp⟩
  have htakes : layout.takes (groupCall (.int id)).record = true := by
    rw [← hlayout]
    rfl
  have hclaim : (Flag.articleGroup 0).claim (groupCall (.int id)).config (groupCall (.int id)).record =
      .limited layout := by
    rw [Flag.claim, (LayoutConfig.group?_eq_some_iff (Flag.begins_layoutName 0)).mpr hlast]
    dsimp only
    rw [if_pos htakes, Layout.claim_of_limit hlimit, if_neg Nat.one_ne_zero]
  refine ⟨?_, ⟨layout, mem_candidates hclaim⟩, hdone⟩
  intro h
  cases h

/-- The one that is updated last keeps the group. -/
theorem overshoot_corrected_groupCall :
    1 < (fullTable.holders (.articleGroup 0)).card ∧
      (Call.afterAll fullCalls fullTable).holders (.articleGroup 0) = {1} := by
  have hlimited {id : Int} (table : Table) (hid : fitsWord id = true) :
      (groupCall (.int id)).Limited (.articleGroup 0) 1 table :=
    ⟨sees_groupCall _, fun _ _ => countSucceeds_of_inOrder rfl rfl (if_pos hid), nofun⟩
  have hresaves {id : Int} {table : Table} (hdone : (groupCall (.int id)).Done table) :
      ∀ other ∈ table.holders (.articleGroup 0), (groupCall (.int id)).term = .exactly other →
        (groupCall (.int id)).Resaves (.articleGroup 0) table := fun _ _ _ => resaves_groupCall hdone
  have hover : 1 < (fullTable.holders (.articleGroup 0)).card := by decide +kernel
  have hall : Call.AllResave (.articleGroup 0) 1 fullCalls fullTable := by
    refine ⟨hlimited _ rfl, hresaves ?_, hlimited _ rfl, hresaves ?_, hlimited _ rfl, hresaves ?_, hlimited _ rfl,
      hresaves ?_, trivial⟩
    · exact .inl (by decide +kernel)
    · exact .inl (by decide +kernel)
    · exact .inl (by decide +kernel)
    · exact .inr (by decide +kernel)
  have honce : ∀ id ∈ fullTable.holders (.articleGroup 0), (fullCalls.filterMap Call.articleId?).count id = 1 := by
    decide +kernel
  obtain ⟨-, -, -, hlast⟩ := overshoot_corrected (.articleGroup 0) Nat.one_pos fullTable hover
  refine ⟨hover, ?_⟩
  rw [(hlast fullCalls hall honce).2]
  decide +kernel

/-- An article whose identifier is not a number is a further holder even above the limit. -/
theorem overshoot_unnumbered :
    let call := groupCall (.number (.float .nan))
    call.Sees (.articleGroup 0) 1 ∧
      CountSucceeds call.config (call.roster fullTable) call.record (.articleGroup 0) ∧ call.Done fullTable ∧
      (∀ id, call.term ≠ .exactly id) ∧ (fullTable.holders (.articleGroup 0)).card = 3 ∧
      ((call.after fullTable).holders (.articleGroup 0)).card = 4 := by
  refine ⟨sees_groupCall _, countSucceeds_of_inOrder rfl rfl rfl, .inr ?_, nofun, ?_, ?_⟩
  · decide +kernel
  · decide +kernel
  · decide +kernel

end FrontPage
