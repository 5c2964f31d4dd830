import FrontPage.Proofs.Classification.Capacity

/-!
# Calls that overlap

A call that saves an article resolves its flags first and writes them later (`Call.written`), and in between other calls
may do either. `Overlap` is one step of such calls, of which only so many may be between their two steps. The articles
that hold a flag or are about to get it (`Overlapping.claimants`) are never more than the limit and all but one of these
calls together, so that the holders are not either (`overshoot_bounded`). Where an identifier is not a number, there is
no such bound (`overshoot_exception`).
-/

namespace FrontPage

/-! ## Writing resolved flags -/

theorem Table.holders_without_subset (table : Table) (term : IdTerm) (flag : Flag) :
    (table.without term).holders flag ⊆ table.holders flag := by
  cases term with
  | exactly id =>
    rw [without, holders_erase]
    exact Finset.erase_subset _ _
  | _ => exact Finset.Subset.refl _

theorem Effect.holders_subset_of_delete {config : LayoutConfig} {roster : Roster} {table after : Table}
    {record : Record} {now : Value} {given : Option FlagSet} {outcome : ClassificationOutcome}
    (h : Effect config roster table record .delete now after given outcome) (flag : Flag) :
    after.holders flag ⊆ table.holders flag := by
  cases h with
  | skipped => exact Finset.Subset.refl _
  | failed => exact Finset.Subset.refl _
  | deleted => exact table.holders_without_subset _ flag
  | cleared _ hop => exact absurd rfl hop
  | updated hop => exact absurd rfl hop
  | inserted hop => exact absurd rfl hop

/-- Placing an article puts a row with its flags in if it has any, and otherwise takes its row out. -/
theorem place_eq_ok {roster after : Roster} {table : Table} {record : Record} {id : Value} {flags : FlagSet}
    {now : Value} (htable : roster.table = some table) (hnull : id ≠ .null)
    (h : (place roster record id flags now).result = .ok after) :
    (flags.any = false ∧ after = { roster with table := some (table.without (.ofValue id)) }) ∨
      (flags.any = true ∧ ∃ n row, (IdTerm.ofValue id = .exactly n ∨ id = .number (.float .nan)) ∧ row.Carries flags ∧
        after = { roster with table := some (table.put n row) }) := by
  rw [place] at h
  cases hany : flags.any with
  | false =>
    rw [hany] at h
    exact .inl ⟨rfl, remove_eq_ok htable h⟩
  | true =>
    rw [hany] at h
    obtain ⟨date, -, ⟨n, row, hn, -, hafter⟩ | ⟨n, values, hn, -, hvalues, hafter⟩⟩ := upsert_eq_ok htable hnull h
    · exact .inr ⟨rfl, n, _, .inl hn, Roster.carries_flagged _ _ _, hafter⟩
    · exact .inr ⟨rfl, n, _, hn, Roster.carries_newRow (rosterValues_eq_ok hvalues).1, hafter⟩

namespace Call

/-- The table after a call writes flags that it resolved before; a write that fails leaves the table as it was. -/
def written (call : Call) (flags : FlagSet) (table : Table) : Table :=
  match (place (call.roster table) call.record (Record.get call.record idColumn) flags call.now).result with
  | .ok after => after.table.getD table
  | .error _ => table

variable {call : Call} {table : Table}

/-- **A call that saves an article is its two steps, one right after the other.** -/
theorem after_eq_written (hop : call.operation ≠ .delete) (hid : (Record.get call.record idColumn).holds = true)
    (table : Table) : call.after table = call.written (call.resolved table) table := by
  rw [after, result, classify_of_saved _ _ _ hid hop, classifySaved, written, resolved, resolvedFlags]
  cases hr : (place (call.roster table) call.record (Record.get call.record idColumn)
      (resolveFlags call.config (call.roster table) call.record (Record.get call.record idColumn)).flags
      call.now).result with
  | ok after => simp only [Placement.classified_of_ok hr]
  | error cause =>
    simp only [Placement.classified_of_error hr]
    rfl

/-- The holders of a flag after a write: those before, to whom the article is added if the flags written hold the flag,
or from whom it is taken. -/
theorem holders_written (call : Call) (hid : (Record.get call.record idColumn).holds = true)
    (hnan : Record.get call.record idColumn ≠ .number (.float .nan)) (flags : FlagSet) (table : Table) (flag : Flag) :
    (call.written flags table).holders flag ⊆ table.holders flag ∨
      ∃ n, call.term = .exactly n ∧ flags.get flag = true ∧
        (call.written flags table).holders flag = insert n (table.holders flag) := by
  have hnull : Record.get call.record idColumn ≠ .null := by
    intro hn
    rw [hn] at hid
    cases hid
  rw [written]
  cases hr : (place (call.roster table) call.record (Record.get call.record idColumn) flags call.now).result with
  | error cause => exact .inl (Finset.Subset.refl _)
  | ok after =>
    have htable : (call.roster table).table = some table := rfl
    rcases place_eq_ok htable hnull hr with ⟨-, rfl⟩ | ⟨-, n, row, hn, hcarries, rfl⟩
    · exact .inl (table.holders_without_subset _ flag)
    · dsimp only [Option.getD_some]
      rw [Table.holders_put, hcarries.holds_eq]
      cases hheld : flags.get flag with
      | false => exact .inl (Finset.erase_subset _ _)
      | true => exact .inr ⟨n, hn.resolve_right hnan, rfl, rfl⟩

end Call

/-! ## Overlapping calls -/

/-- A call between its two steps, with the flags that it resolved. -/
structure Pending where
  call : Call
  flags : FlagSet

/-- The article that is to get a flag when a pending call writes. -/
def Pending.claims (pending : Pending) (flag : Flag) : Option Int :=
  if pending.flags.get flag then
    match pending.call.term with
    | .exactly id => some id
    | _ => none
  else none

/-- A table and the calls that are between their two steps. -/
structure Overlapping where
  table : Table
  pending : List Pending

/-- A step of calls that overlap, of which up to `most` may be pending. Those that save an article are of a certain
kind, go by a limit for a flag and can count it. -/
inductive Overlap (kind : Call → Prop) (flag : Flag) (limit most : Nat) : Overlapping → Overlapping → Prop
  /-- A call resolves its flags against the table as it stands. -/
  | resolves {table : Table} {pending : List Pending} (call : Call) : kind call → call.operation ≠ .delete →
      (Record.get call.record idColumn).holds = true → call.Sees flag limit →
      CountSucceeds call.config (call.roster table) call.record flag → pending.length < most →
      Overlap kind flag limit most ⟨table, pending⟩ ⟨table, ⟨call, call.resolved table⟩ :: pending⟩
  /-- A pending call writes its flags; by then other statements may be out of order. -/
  | writes {table : Table} (before behind : List Pending) (pending : Pending) (outage : Query → Option String) :
      Overlap kind flag limit most ⟨table, before ++ pending :: behind⟩
        ⟨{ pending.call with outage }.written pending.flags table, before ++ behind⟩
  /-- A call deletes its article. -/
  | deletes {table : Table} {pending : List Pending} (call : Call) : call.operation = .delete →
      Overlap kind flag limit most ⟨table, pending⟩ ⟨call.after table, pending⟩

/-- The identifier of a call's article is not the number that is none. -/
def Call.IsNumbered (call : Call) : Prop := Record.get call.record idColumn ≠ .number (.float .nan)

/-- Of the articles that a list of calls is to give a flag, there are no more than calls. -/
theorem card_claims_le (pending : List Pending) (flag : Flag) :
    (pending.filterMap fun p => p.claims flag).toFinset.card ≤ pending.length :=
  (List.toFinset_card_le _).trans (List.length_filterMap_le _ _)

namespace Overlapping

/-- The articles that hold a flag or are to get it. -/
def claimants (state : Overlapping) (flag : Flag) : Finset Int :=
  state.table.holders flag ∪ (state.pending.filterMap fun pending => pending.claims flag).toFinset

/-- What calls that overlap keep: every pending call is about a numbered article, and the articles that hold the flag or
are to get it are no more than the limit and all but one of the calls that may be pending. -/
structure Bounded (flag : Flag) (limit most : Nat) (state : Overlapping) : Prop where
  named : ∀ pending ∈ state.pending, (Record.get pending.call.record idColumn).holds = true ∧ pending.call.IsNumbered
  few : (state.claimants flag).card ≤ limit + most - 1

variable {flag : Flag} {limit most : Nat} {state next : Overlapping}

/-- A call that resolves a flag for its article adds it to the claimants only where the others are fewer. -/
theorem card_claimants_cons {table : Table} {pending : List Pending} {call : Call} (hpos : 0 < limit)
    (hsees : call.Sees flag limit) (hcounts : CountSucceeds call.config (call.roster table) call.record flag)
    (hroom : pending.length < most) (h : ((⟨table, pending⟩ : Overlapping).claimants flag).card ≤ limit + most - 1) :
    ((⟨table, ⟨call, call.resolved table⟩ :: pending⟩ : Overlapping).claimants flag).card ≤ limit + most - 1 := by
  rw [claimants] at h ⊢
  rw [List.filterMap_cons]
  cases hclaim : (⟨call, call.resolved table⟩ : Pending).claims flag with
  | none => exact h
  | some id =>
    rw [Pending.claims] at hclaim
    split at hclaim
    · next hheld =>
      have hterm : call.term = .exactly id := by
        split at hclaim
        · next n hn =>
          cases hclaim
          exact hn
        · cases hclaim
      have hlt := Call.lt_of_resolved hsees hpos hcounts hheld
      rw [hterm, Roster.holders_exactly, ← Nat.succ_le_iff, Nat.succ_eq_add_one, ← card_insert_eq] at hlt
      have hclaims := card_claims_le pending flag
      dsimp only
      calc (table.holders flag ∪ (id :: pending.filterMap fun p => p.claims flag).toFinset).card
          = (insert id (table.holders flag) ∪ (pending.filterMap fun p => p.claims flag).toFinset).card := by
            rw [List.toFinset_cons, Finset.union_insert, Finset.insert_union]
        _ ≤ (insert id (table.holders flag)).card + (pending.filterMap fun p => p.claims flag).toFinset.card :=
            Finset.card_union_le _ _
        _ ≤ limit + most - 1 := by omega
    · cases hclaim

/-- A call that writes adds no claimant: either its article gets no flag, or it was to get it. -/
theorem claimants_written {table : Table} {before behind : List Pending} {pending : Pending}
    (outage : Query → Option String) (hid : (Record.get pending.call.record idColumn).holds = true)
    (hnan : pending.call.IsNumbered) :
    (⟨{ pending.call with outage }.written pending.flags table, before ++ behind⟩ : Overlapping).claimants flag ⊆
      (⟨table, before ++ pending :: behind⟩ : Overlapping).claimants flag := by
  have hothers : ((before ++ behind).filterMap fun p => p.claims flag).toFinset ⊆
      ((before ++ pending :: behind).filterMap fun p => p.claims flag).toFinset := by
    intro id hm
    have hsublist := ((List.sublist_cons_self pending behind).append_left before).filterMap fun p => p.claims flag
    exact List.mem_toFinset.mpr (hsublist.subset (List.mem_toFinset.mp hm))
  rw [claimants, claimants]
  rcases Call.holders_written { pending.call with outage } hid hnan pending.flags table flag with
    hfewer | ⟨n, hn, hheld, hholders⟩
  · exact Finset.union_subset_union hfewer hothers
  · have hclaim : pending.claims flag = some n := by
      have hterm : pending.call.term = .exactly n := hn
      rw [Pending.claims, if_pos hheld, hterm]
    rw [hholders, Finset.insert_union]
    refine Finset.insert_subset ?_ (Finset.union_subset_union (Finset.Subset.refl _) hothers)
    refine Finset.mem_union_right _ (List.mem_toFinset.mpr (List.mem_filterMap.mpr ⟨pending, ?_, hclaim⟩))
    exact List.mem_append_right _ List.mem_cons_self

/-- One step of calls that overlap keeps the bound. -/
theorem Bounded.step (hpos : 0 < limit) (h : state.Bounded flag limit most)
    (hstep : Overlap Call.IsNumbered flag limit most state next) : next.Bounded flag limit most := by
  cases hstep with
  | resolves call hnan hop hid hsees hcounts hroom =>
    refine ⟨fun pending hm => ?_, card_claimants_cons hpos hsees hcounts hroom h.few⟩
    rcases List.mem_cons.mp hm with rfl | hm
    · exact ⟨hid, hnan⟩
    · exact h.named pending hm
  | @writes table before behind pending outage =>
    obtain ⟨hid, hnan⟩ := h.named pending (List.mem_append_right _ List.mem_cons_self)
    refine ⟨fun other hm => h.named other ?_, (Finset.card_le_card (claimants_written outage hid hnan)).trans h.few⟩
    exact ((List.sublist_cons_self pending behind).append_left before).subset hm
  | @deletes table pending call hop =>
    refine ⟨h.named, (Finset.card_le_card ?_).trans h.few⟩
    have heffect := call.effect table
    rw [hop] at heffect
    exact Finset.union_subset_union (heffect.holders_subset_of_delete flag) (Finset.Subset.refl _)

end Overlapping

/-- **Calls that overlap exceed a limit by no more than the calls in flight but one.** A call that saves an article is a
resolution with its write right behind it. Whatever calls about numbered articles resolve and write in between, on
however many articles and in any order: if they go by a limit for a flag and can count it, and of them no more than some
are ever pending at a time, then no more articles ever hold the flag than the limit and all but one of these. -/
theorem overshoot_bounded (flag : Flag) {limit most : Nat} (hpos : 0 < limit) (hmost : 0 < most) :
    (∀ (call : Call) (table : Table), call.operation ≠ .delete → (Record.get call.record idColumn).holds = true →
      call.after table = call.written (call.resolved table) table) ∧
    ∀ (table : Table) (state : Overlapping), (table.holders flag).card ≤ limit →
      Relation.ReflTransGen (Overlap Call.IsNumbered flag limit most) ⟨table, []⟩ state →
      (state.table.holders flag).card ≤ limit + most - 1 := by
  refine ⟨fun call table hop hid => call.after_eq_written hop hid table, fun table state hstart hrun => ?_⟩
  have hbounded : state.Bounded flag limit most := by
    induction hrun with
    | refl =>
      refine ⟨nofun, ?_⟩
      rw [Overlapping.claimants, List.filterMap_nil, List.toFinset_nil, Finset.union_empty]
      dsimp only
      omega
    | tail _ hstep ih => exact ih.step hpos hstep
  exact (Finset.card_le_card Finset.subset_union_left).trans hbounded.few

/-- Two articles that are updated at the same time both get the last place of a group, and no third article could. -/
theorem overshoot_bounded_groupCall :
    ∃ state : Overlapping, Relation.ReflTransGen (Overlap Call.IsNumbered (.articleGroup 0) 1 2) ⟨.empty, []⟩ state ∧
      (state.table.holders (.articleGroup 0)).card ≤ 1 + 2 - 1 ∧ (state.table.holders (.articleGroup 0)).card = 2 := by
  have hresolves (n : Int) (hn : (Value.int n).holds = true) (hfits : refusal? (.int n) = none) (pending : List Pending)
      (hroom : pending.length < 2) : Overlap Call.IsNumbered (.articleGroup 0) 1 2 ⟨.empty, pending⟩
        ⟨.empty, ⟨groupCall (.int n), (groupCall (.int n)).resolved .empty⟩ :: pending⟩ :=
    .resolves _ nofun nofun hn (sees_groupCall _) (countSucceeds_of_inOrder rfl rfl hfits) hroom
  have hrun := (((Relation.ReflTransGen.single (hresolves 5 (by decide +kernel) rfl [] (by decide))).tail
    (hresolves 6 (by decide +kernel) rfl _ (by decide))).tail (.writes [] _ _ fun _ => none)).tail
      (.writes [] _ _ fun _ => none)
  exact ⟨_, hrun, (overshoot_bounded (.articleGroup 0) Nat.one_pos Nat.two_pos).2 .empty _ (by decide +kernel) hrun,
    by decide +kernel⟩

/-- One call at a time about an article whose identifier is not a number exceeds the limit: no row is counted as
another's, and there is a new one each time. -/
theorem overshoot_exception :
    ∃ state : Overlapping, Relation.ReflTransGen (Overlap (fun _ => True) (.articleGroup 0) 1 1) ⟨.empty, []⟩ state ∧
      (Table.empty.holders (.articleGroup 0)).card ≤ 1 ∧ 1 + 1 - 1 < (state.table.holders (.articleGroup 0)).card := by
  have hstep (table : Table) : Relation.ReflTransGen (Overlap (fun _ => True) (.articleGroup 0) 1 1) ⟨table, []⟩
      ⟨(groupCall (.number (.float .nan))).written ((groupCall (.number (.float .nan))).resolved table) table, []⟩ :=
    (Relation.ReflTransGen.single (.resolves (groupCall _) trivial nofun rfl (sees_groupCall _)
      (countSucceeds_of_inOrder rfl rfl rfl) Nat.one_pos)).tail (.writes [] _ _ fun _ => none)
  exact ⟨_, (hstep .empty).trans (hstep _), by decide +kernel, by decide +kernel⟩

end FrontPage
