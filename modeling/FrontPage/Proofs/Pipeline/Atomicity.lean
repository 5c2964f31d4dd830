import FrontPage.Proofs.Classification.OwnRow
import FrontPage.Proofs.Pipeline.Events
import FrontPage.Proofs.Pipeline.Preserving

/-!
# Classifications that fail

A classification touches no row but that of its own article, and when it fails or is skipped it touches none
(`classify_rows`). The same holds when it is run on a pipeline whose layouts cannot be read, whose table is not there
and whose statements fail in any way (`classifyArticle_atomic`). How it ended is counted once, which nothing does that
happens on the way (`Unclassified`). Where there is a table, what is shown of calls holds of a pipeline: classifying an
article is a call, or leaves the roster as it was (`classifyArticle_call`).
-/

namespace FrontPage

open Pipeline

/-! ## Counting -/

namespace Metrics

theorem lookup_increment_of_ne {counter other : Counter} (hne : other ≠ counter) (counts : List (Counter × Nat)) :
    (increment counter counts).lookup other = counts.lookup other := by
  induction counts with
  | nil => simp [increment, hne]
  | cons e rest ih =>
    obtain ⟨c, n⟩ := e
    rw [increment]
    by_cases hc : c = counter
    · rw [if_pos hc, List.lookup_cons, List.lookup_cons, hc, beq_eq_false_iff_ne.mpr hne]
    · rw [if_neg hc, List.lookup_cons, List.lookup_cons, ih]

/-- Everything is counted as often as it came up. -/
theorem count_recordAll (metrics : Metrics) (counters : List Counter) (counter : Counter) :
    (metrics.recordAll counters).count counter = metrics.count counter + counters.count counter := by
  induction counters generalizing metrics with
  | nil => rfl
  | cons first rest ih =>
    rw [recordAll, List.foldl_cons, ← recordAll, ih, List.count_cons]
    by_cases hfirst : first = counter
    · subst hfirst
      have honce : (metrics.record first).count first = metrics.count first + 1 := lookup_increment_self _ _
      rw [honce, if_pos (beq_self_eq_true first)]
      omega
    · have hkept : (metrics.record first).count counter = metrics.count counter := by
        rw [count, record, lookup_increment_of_ne (Ne.symm hfirst)]
        rfl
      rw [hkept, if_neg (by simpa using hfirst), Nat.add_zero]

/-- Of all classifications, one that ended in a certain way was counted, once. -/
def CountsOne (before after : Metrics) (counted : Counter) : Prop :=
  ∀ counter, counter.isClassification = true →
    after.count counter = before.count counter + if counter = counted then 1 else 0

end Metrics

theorem Unclassified.count_eq_zero {counters : List Counter} (h : Unclassified counters) {counter : Counter}
    (hcounter : counter.isClassification = true) : counters.count counter = 0 := by
  refine List.count_eq_zero.mpr fun hm => ?_
  rw [h counter hm] at hcounter
  cases hcounter

theorem Unclassified.append {counters others : List Counter} (h : Unclassified counters) (h' : Unclassified others) :
    Unclassified (counters ++ others) := by
  intro counter hm
  rcases List.mem_append.mp hm with hm | hm
  · exact h counter hm
  · exact h' counter hm

theorem unclassified_nil : Unclassified [] := fun _ hm => absurd hm List.not_mem_nil

section

variable (config : LayoutConfig) (roster : Roster) (record : Record) (id : Value) (flags : FlagSet) (now : Value)

/-- Resolving flags counts statements and denials. -/
theorem unclassified_resolveFlags : Unclassified (resolveFlags config roster record id).trace := by
  rw [resolveFlags]
  dsimp only
  split
  · exact unclassified_nil
  · refine .append (.append (Query.unclassified_trace _ _) ?_) ?_
    · split
      · exact unclassified_nil
      · intro counter hm
        obtain ⟨candidate, -, hm⟩ := List.mem_flatMap.mp hm
        exact Query.unclassified_trace _ _ counter hm
    · intro counter hm
      obtain ⟨denied, -, rfl⟩ := List.mem_map.mp hm
      rfl

/-- Placing an article counts statements. -/
theorem unclassified_place : Unclassified (place roster record id flags now).trace := by
  rw [place]
  split
  · rw [upsert]
    split
    · exact unclassified_nil
    · split
      · exact unclassified_nil
      · exact Query.unclassified_trace _ _
      · split
        · exact unclassified_nil
        · exact Query.unclassified_trace _ _
  · exact Query.unclassified_trace _ _

theorem unclassified_classified {placement : Placement Roster} (h : Unclassified placement.trace)
    (given : Option FlagSet) (outcome : ClassificationOutcome) :
    Unclassified (placement.classified roster given outcome).trace := by
  rw [Placement.classified]
  split <;> exact h

/-- A classification is counted when it is finished, and not before. -/
theorem unclassified_classify (operation : Operation) :
    Unclassified (classify config roster record operation now).trace := by
  cases hid : (Record.get record idColumn).holds with
  | false =>
    rw [classify_of_not_holds config roster now hid]
    exact unclassified_nil
  | true =>
    by_cases hop : operation = .delete
    · rw [hop, classify_delete config roster now hid]
      exact unclassified_classified roster (Query.unclassified_trace _ _) _ _
    · rw [classify_of_saved config roster now hid hop]
      exact (unclassified_resolveFlags config roster record _).append
        (unclassified_classified roster (unclassified_place roster record _ _ now) _ _)

end

/-! ## Articles -/

/-- The pipelines have the same rows and have counted the same classifications. -/
structure SameRows (pipeline other : Pipeline) : Prop where
  rows : ∀ id, other.roster.row? id = pipeline.roster.row? id
  counts : ∀ counter : Counter, counter.isClassification = true →
    other.metrics.count counter = pipeline.metrics.count counter

theorem SameRows.untouched (base : Pipeline) : Untouched (SameRows base) fun _ => True where
  store h _ := ⟨h.rows, h.counts⟩
  recordAll h counters hcounters := by
    refine ⟨h.rows, fun counter hcounter => ?_⟩
    rw [Metrics.count_recordAll, hcounters.count_eq_zero hcounter, Nat.add_zero, h.counts counter hcounter]
  cache h _ _ := ⟨h.rows, h.counts⟩

/-- Counting a classification after what came up in it counts one. -/
theorem Unclassified.countsOne {trace : List Counter} (h : Unclassified trace) (metrics : Metrics) (counted : Counter) :
    metrics.CountsOne (metrics.recordAll (trace ++ [counted])) counted := by
  intro counter hcounter
  rw [Metrics.count_recordAll, List.count_append, h.count_eq_zero hcounter, List.count_singleton, Nat.zero_add]
  by_cases hsame : counter = counted
  · simp [hsame]
  · simp [hsame, Ne.symm hsame]

namespace Pipeline

/-- Operations have different names. -/
theorem ofName?_eq_none_iff {name : String} :
    Operation.ofName? name = none ↔ name ∉ ["create", "update", "delete"] := by
  rw [Operation.ofName?, List.find?_eq_none]
  simp [Operation.name, @eq_comm _ name]

theorem name_of_ofName? {name : String} {operation : Operation} (h : Operation.ofName? name = some operation) :
    operation.name = name := by
  have hfound := List.find?_some h
  exact eq_of_beq hfound

variable {pipeline between : Pipeline} {record : Record} {operation : Operation}

/-- A classification ended in a certain way: it left the rows of other articles as they were, it was counted once as
having ended so, and if it was skipped or failed, it gave no flags and left all rows as they were. -/
structure Ended (pipeline : Pipeline) (record : Record) (operation : String) (outcome : ClassificationOutcome)
    (flags : Option FlagSet) (after : Pipeline) : Prop where
  others : ∀ other, Record.get record idColumn ≠ .int other → after.roster.row? other = pipeline.roster.row? other
  counted : pipeline.metrics.CountsOne after.metrics (.classification operation outcome)
  skipped : (Record.get record idColumn).holds = false → outcome = .skipped
  undone : outcome = .skipped ∨ outcome = .error →
    flags = none ∧ ∀ id, after.roster.row? id = pipeline.roster.row? id

/-- Whatever came before, as long as it left the rows as they were, a classification ends when it is finished. -/
theorem ended_finished (hsame : SameRows pipeline between)
    (hid : (∃ id, Record.get record idColumn = .int id) ∨ Record.get record idColumn = .null) (config : LayoutConfig)
    (operation : Operation) :
    let classified := classify config between.roster record operation between.now
    Ended pipeline record operation.name classified.outcome classified.flags
      (between.finished operation classified) := by
  obtain ⟨hothers, hskipped, hundone⟩ := classify_rows config between.roster operation between.now hid
  refine ⟨?_, ?_, hskipped, ?_⟩
  · intro other hother
    exact (hothers other hother).trans (hsame.rows other)
  · intro counter hcounter
    rw [← hsame.counts counter hcounter]
    exact (unclassified_classify config between.roster record between.now operation).countsOne _ _ counter hcounter
  · intro hout
    obtain ⟨hflags, hrows⟩ := hundone hout
    exact ⟨hflags, fun id => (hrows id).trans (hsame.rows id)⟩

/-- A classification for which nothing could be prepared has failed. -/
theorem ended_error (hsame : SameRows pipeline between) (hholds : (Record.get record idColumn).holds = true)
    (operation : String) :
    Ended pipeline record operation .error none
      { between with metrics := between.metrics.recordAll [.classification operation .error] } := by
  refine ⟨fun other _ => hsame.rows other, ?_, ?_, fun _ => ⟨rfl, hsame.rows⟩⟩
  · intro counter hcounter
    rw [← hsame.counts counter hcounter]
    exact unclassified_nil.countsOne between.metrics _ counter hcounter
  · intro hnot
    rw [hnot] at hholds
    cases hholds

/-- Preparing a classification leaves the rows as they were, even if it makes the table. -/
theorem sameRows_prepare (pipeline : Pipeline) :
    SameRows pipeline ((Action.inside 2 prepare).run pipeline).2 := by
  have huntouched := SameRows.untouched pipeline
  have hprepare : Preserves (SameRows pipeline) (Action.inside 2 prepare) := by
    refine huntouched.preserves_inside 2 (preserves_prepare huntouched trivial trivial fun between h => ?_)
    exact ⟨fun id => (between.roster.row?_withTable id).trans (h.rows id), h.counts⟩
  exact hprepare pipeline ⟨fun _ => rfl, fun _ _ => rfl⟩

/-- An article is classified on the pipeline as it is or as it was prepared, unless it cannot be prepared. -/
theorem classifyArticle_cases (pipeline : Pipeline) (record : Record) {name : String}
    (hop : Operation.ofName? name = some operation) :
    ∃ between, (between = pipeline ∨ between = ((Action.inside 2 prepare).run pipeline).2) ∧
      ((∃ config, Gives (classifyArticle (.record record) name) pipeline
          (classify config between.roster record operation between.now).flags
          (between.finished operation (classify config between.roster record operation between.now))) ∨
        ((Record.get record idColumn).holds = true ∧ Gives (classifyArticle (.record record) name) pipeline none
          { between with metrics := between.metrics.recordAll [.classification operation.name .error] })) := by
  by_cases hunasked : (decide (operation = .delete) || !(Record.get record idColumn).holds) = true
  · exact ⟨pipeline, .inl rfl, .inl ⟨.empty, gives_classifyArticle_unasked hop hunasked (gives_finish _ _ _)⟩⟩
  · have hholds : (Record.get record idColumn).holds = true := by
      rw [Bool.or_eq_true, not_or, Bool.not_eq_true', Bool.not_eq_false] at hunasked
      exact hunasked.2
    refine ⟨_, .inr rfl, ?_⟩
    have hattempt := Gives.attempt_run (Action.inside 2 prepare) pipeline
    cases hprepared : ((Action.inside 2 prepare).run pipeline).1 with
    | ok config =>
      rw [hprepared] at hattempt
      exact .inl ⟨config, gives_classifyArticle_prepared hop hunasked hattempt (gives_finish _ _ _)⟩
    | error cause =>
      rw [hprepared] at hattempt
      exact .inr ⟨hholds, gives_classifyArticle_unprepared hop hunasked hattempt⟩

/-- Classifying an article after one of the three operations ends in one way. -/
theorem ended_classifyArticle (pipeline : Pipeline)
    (hid : (∃ id, Record.get record idColumn = .int id) ∨ Record.get record idColumn = .null) {name : String}
    (hop : Operation.ofName? name = some operation) :
    ∃ outcome flags after, Gives (classifyArticle (.record record) name) pipeline flags after ∧
      Ended pipeline record name outcome flags after := by
  obtain rfl : operation.name = name := name_of_ofName? hop
  obtain ⟨between, hbetween, hcases⟩ := classifyArticle_cases pipeline record hop
  have hsame : SameRows pipeline between := by
    rcases hbetween with rfl | rfl
    · exact ⟨fun _ => rfl, fun _ _ => rfl⟩
    · exact sameRows_prepare pipeline
  rcases hcases with ⟨config, hgives⟩ | ⟨hholds, hgives⟩
  · exact ⟨_, _, _, hgives, ended_finished hsame hid config operation⟩
  · exact ⟨_, _, _, hgives, ended_error hsame hholds operation.name⟩

/-- Where there is a table, preparing a classification leaves the roster and the time of day as they were. -/
theorem sameRoster_prepare {table : Table} (htable : pipeline.roster.table = some table) :
    let between := ((Action.inside 2 prepare).run pipeline).2
    between.roster = pipeline.roster ∧ between.now = pipeline.now := by
  let Same (other : Pipeline) : Prop := other.roster = pipeline.roster ∧ other.now = pipeline.now
  have huntouched : Untouched Same fun _ => True :=
    { store := fun h _ => h, recordAll := fun h _ _ => h, cache := fun h _ _ => h }
  have hprepare : Preserves Same (Action.inside 2 prepare) := by
    refine huntouched.preserves_inside 2 (preserves_prepare huntouched trivial trivial fun between h => ?_)
    refine ⟨?_, h.2⟩
    rw [h.1, Roster.withTable, htable, Option.getD_some, ← htable]
  exact hprepare pipeline ⟨rfl, rfl⟩

/-- **Where there is a table, classifying an article is a call on it, or leaves the roster as it was.** -/
theorem classifyArticle_call (pipeline : Pipeline) {table : Table} (htable : pipeline.roster.table = some table)
    (record : Record) (name : String) :
    ∃ flags after, Gives (classifyArticle (.record record) name) pipeline flags after ∧
      ((flags = none ∧ after.roster = pipeline.roster) ∨
        ∃ call : Call, call.record = record ∧ call.operation.name = name ∧ call.now = pipeline.now ∧
          flags = (call.result table).flags ∧
          after.roster = { pipeline.roster with table := some (call.after table) }) := by
  cases hop : Operation.ofName? name with
  | none =>
    refine ⟨none, pipeline, (Gives.pure record pipeline).bind ?_, .inl ⟨rfl, rfl⟩⟩
    rw [hop]
    exact Gives.pure none pipeline
  | some operation =>
    obtain ⟨between, hbetween, hcases⟩ := classifyArticle_cases pipeline record hop
    have hkept : between.roster = pipeline.roster ∧ between.now = pipeline.now := by
      rcases hbetween with rfl | rfl
      · exact ⟨rfl, rfl⟩
      · exact sameRoster_prepare htable
    rcases hcases with ⟨config, hgives⟩ | ⟨-, hgives⟩
    · let call : Call :=
        { config, record, operation, now := pipeline.now, outage := pipeline.roster.outage }
      have hroster : pipeline.roster = call.roster table := by
        rw [Call.roster, ← htable]
      have hresult : classify config between.roster record operation between.now = call.result table := by
        rw [hkept.1, hkept.2, hroster]
        rfl
      refine ⟨_, _, hgives, .inr ⟨call, rfl, name_of_ofName? hop, rfl, by rw [hresult], ?_⟩⟩
      rw [hresult, finished, call.roster_result]
      rfl
    · exact ⟨_, _, hgives, .inl ⟨rfl, hkept.1⟩⟩

/-- **A classification that fails changes nothing, and none touches another article.** Whatever statements are out of
order, whether there is a table, whatever is cached and whatever the layouts are, classifying an article with a whole
number as its identifier, or with none, leaves the rows of all others as they were. It ends in one way, and if it is
skipped or fails, all rows are as they were. An operation that is none of the three changes nothing at all. -/
theorem classifyArticle_atomic (pipeline : Pipeline) {record : Record}
    (hid : (∃ id, Record.get record idColumn = .int id) ∨ Record.get record idColumn = .null) (operation : String) :
    ∃ flags after, Gives (classifyArticle (.record record) operation) pipeline flags after ∧
      (operation ∉ ["create", "update", "delete"] → flags = none ∧ after = pipeline) ∧
      (operation ∈ ["create", "update", "delete"] →
        ∃ outcome, Ended pipeline record operation outcome flags after) := by
  cases hop : Operation.ofName? operation with
  | none =>
    have harticle : Gives (articleOf (.record record)) pipeline record pipeline := Gives.pure record pipeline
    refine ⟨none, pipeline, harticle.bind ?_, fun _ => ⟨rfl, rfl⟩, fun hm => absurd hm (ofName?_eq_none_iff.mp hop)⟩
    rw [hop]
    exact Gives.pure none pipeline
  | some known =>
    obtain ⟨outcome, flags, after, hgives, hended⟩ := ended_classifyArticle pipeline hid hop
    refine ⟨flags, after, hgives, fun hunknown => ?_, fun _ => ⟨outcome, hended⟩⟩
    rw [ofName?_eq_none_iff.mpr hunknown] at hop
    cases hop

/-- Two articles have rows, flags cannot be counted at once, and rows cannot be written again. -/
def lockedPipeline : Pipeline :=
  { ofDocument "[]" with
    roster :=
      { table := some ((Table.empty.put 5 (Roster.newRow [("highlight1_flag", .text "Yes")])).put 6
          (Roster.newRow [("highlight2_flag", .text "Yes")]))
        outage := fun query => if query ∈ [.countFlags, .updateFlags] then some "locked" else none } }

/-- The update of an article with a row fails, and is counted as a failure. -/
theorem classifyArticle_atomic_locked :
    let article : Record := [("article_id", .int 5), ("highlight2_flag", .text "Yes")]
    Record.get article idColumn = .int 5 ∧
    ∃ flags after, Gives (classifyArticle (.record article) "update") lockedPipeline flags after ∧
      Ended lockedPipeline article "update" .error flags after := by
  intro article
  have hid : Record.get article idColumn = .int 5 := rfl
  obtain ⟨flags, after, hgives, -, hended⟩ := classifyArticle_atomic lockedPipeline (.inl ⟨5, hid⟩) "update"
  obtain ⟨outcome, hended⟩ := hended (by decide)
  have hfailed : ((classifyArticle (.record article) "update").run lockedPipeline).2.metrics.count
      (.classification "update" .error) = 1 := by decide +kernel
  have hcounted := hended.counted (.classification "update" .error) rfl
  rw [hgives] at hfailed
  rw [hfailed] at hcounted
  cases outcome with
  | error => exact ⟨hid, flags, after, hgives, hended⟩
  | _ => exact absurd hcounted (by decide)

end Pipeline

end FrontPage
