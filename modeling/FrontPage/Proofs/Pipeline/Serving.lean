import FrontPage.Pipeline.Reclassify
import FrontPage.Proofs.Classification.Passes
import FrontPage.Proofs.Pipeline.Reads

/-!
# Pipelines that serve a configuration

A pipeline serves a configuration if it finds the layout document wherever it looks for it, the document describes the
configuration, and the cache holds no other one (`Pipeline.Serves`). Then the active layouts are those of the
configuration (`Serves.offers`), and classifying an article does to the roster what `classify` does under
the configuration (`Serves.gives_classifyArticle`). The pipeline goes on serving it.
-/

namespace FrontPage

namespace Pipeline

/-- The layout document as it is read inside so many steps of work. -/
def readLayouts (pipeline : Pipeline) (steps : Nat) : Except StoreError (Option Value) :=
  ObjectStore.keyText pipeline.environment.layoutsKey >>=
    ({ pipeline.store with room := pipeline.store.room - steps } : ObjectStore).getJson?

/-- The pipeline serves the configuration of a document to whom asks for it inside up to so many steps of work. -/
structure Serves (pipeline : Pipeline) (document : Value) (config : LayoutConfig) (depth : Nat) : Prop where
  loads : LayoutConfig.ofDocument document = .ok config
  inOrder : pipeline.outages.document = none
  reads : ∀ steps, steps ≤ depth → pipeline.readLayouts steps = .ok (some document)
  cached : ∀ e ∈ pipeline.cache.entries, e.1 = layoutsEntry → e.2.value = .layouts config
  expires : ∃ expiry, pipeline.time.later pipeline.environment.layoutsTtl = .ok expiry

variable {pipeline : Pipeline} {document : Value} {config : LayoutConfig} {depth : Nat}

/-- Asked inside some steps of work, there are fewer left. -/
theorem Serves.inside (h : pipeline.Serves document config depth) {steps : Nat} (hsteps : steps ≤ depth) :
    Serves { pipeline with store := { pipeline.store with room := pipeline.store.room - steps } } document config
      (depth - steps) where
  loads := h.loads
  inOrder := h.inOrder
  reads inner hinner := by
    rw [readLayouts]
    dsimp only
    rw [Nat.sub_sub]
    exact h.reads (steps + inner) (by omega)
  cached := h.cached
  expires := h.expires

/-- A read of the layouts gives the configuration that is served. -/
theorem Serves.offers (h : pipeline.Serves document config depth) (hdepth : 1 ≤ depth) :
    Source.layouts.Offers pipeline (.layouts config) := by
  refine ⟨⟨config, rfl⟩, ?_⟩
  cases hlive : pipeline.cache.live? Source.layouts.entry pipeline.time with
  | some value =>
    obtain ⟨expiry, hentry, -⟩ := Cache.live?_eq_some_iff.mp hlive
    obtain ⟨before, behind, hsplit, -⟩ := List.lookup_eq_some_iff.mp hentry
    have hm : (layoutsEntry, (⟨value, expiry⟩ : CacheEntry Cached)) ∈ pipeline.cache.entries :=
      hsplit ▸ List.mem_append_right _ List.mem_cons_self
    exact .inl (congrArg some (h.cached _ hm rfl))
  | none =>
    have hread : ObjectStore.keyText pipeline.environment.layoutsKey >>= (pipeline.within 1).store.getJson? =
        .ok (some document) := h.reads 1 hdepth
    have hconfig : pipeline.documentConfig? = some config := by
      rw [documentConfig?, hread, h.inOrder]
      dsimp only
      rw [h.loads]
      rfl
    exact .inr ⟨rfl, by rw [Source.fresh, hconfig], h.expires⟩

/-- Looking for a table that is there leaves the roster as it is, whether it fails or not; the cache holds nothing new
but that there is one. -/
theorem probeTable_of_table {table : Table} (htable : pipeline.roster.table = some table) :
    ∃ cache, (Gives probeTable pipeline ⟨⟩ { pipeline with cache } ∨
        ∃ cause, Fails probeTable pipeline cause { pipeline with cache }) ∧
      ∀ e ∈ cache.entries, e ∈ pipeline.cache.entries ∨ e.1 = tableEntry := by
  have hroster : { pipeline with roster := pipeline.roster.withTable } = pipeline := by
    obtain ⟨environment, store, ⟨found, outage⟩, cache, time, now, metrics, outages⟩ := pipeline
    cases htable
    rfl
  cases hprobe : pipeline.outages.tableProbe with
  | some message =>
    refine ⟨pipeline.cache, .inr ⟨.outage message, Fails.bind (Gives.get pipeline) ?_⟩, fun e he => .inl he⟩
    rw [hprobe]
    exact Fails.throw _ _
  | none =>
    have hmade := Gives.modify (fun pipeline => { pipeline with roster := pipeline.roster.withTable }) pipeline
    rw [hroster] at hmade
    cases hexpiry : pipeline.time.later pipeline.environment.tableTtl with
    | error cause =>
      refine ⟨pipeline.cache, .inr ⟨.duration cause, Fails.bind (Gives.get pipeline) ?_⟩, fun e he => .inl he⟩
      rw [hprobe]
      exact Fails.bind hmade (Fails.bind (Gives.get pipeline) (Gives.fails_cacheAs _ _ hexpiry))
    | ok expiry =>
      refine ⟨pipeline.cache.put tableEntry .tableExists expiry, .inl ((Gives.get pipeline).bind ?_), fun e he => ?_⟩
      · rw [hprobe]
        exact hmade.bind ((Gives.get pipeline).bind (Gives.cacheAs tableEntry .tableExists hexpiry))
      · exact (Cache.mem_put he).imp_right fun h => by rw [h]

/-- Making sure that there is a table where there is one leaves the roster as it is. -/
theorem gives_ensureTable {table : Table} (htable : pipeline.roster.table = some table) :
    ∃ cache metrics, Gives ensureTable pipeline ⟨⟩ { pipeline with cache, metrics } ∧
      ∀ e ∈ cache.entries, e ∈ pipeline.cache.entries ∨ e.1 = tableEntry := by
  obtain ⟨metrics, hcached⟩ := Gives.cached? tableEntry pipeline
  cases hfound : (pipeline.cache.get tableEntry pipeline.time).1 with
  | some value =>
    rw [hfound] at hcached
    exact ⟨_, _, hcached.bind (Gives.pure _ _), fun e he => .inl (Cache.mem_get he)⟩
  | none =>
    rw [hfound] at hcached
    have hkept : ({ pipeline with cache := (pipeline.cache.get tableEntry pipeline.time).2, metrics } :
        Pipeline).roster.table = some table := htable
    obtain ⟨cache, hprobe, hentries⟩ := probeTable_of_table hkept
    refine ⟨cache, metrics, hcached.bind ?_, fun e he => (hentries e he).imp_left Cache.mem_get⟩
    rcases hprobe with hprobe | ⟨cause, hprobe⟩
    · exact hprobe.attempt.map _
    · exact hprobe.attempt.map _

/-- Before a classification the active layouts are at hand, and nothing else has changed than the cache and the
metrics. -/
theorem Serves.gives_prepare (h : pipeline.Serves document config depth) (hdepth : 1 ≤ depth) {table : Table}
    (htable : pipeline.roster.table = some table) :
    ∃ cache metrics, Gives prepare pipeline config { pipeline with cache, metrics } ∧
      ∀ e ∈ cache.entries, e.1 = layoutsEntry → e.2.value = .layouts config := by
  obtain ⟨cache, metrics, hlayouts, -, hentries⟩ := gives_activeLayouts (h.offers hdepth)
  have hkept : ({ pipeline with cache, metrics } : Pipeline).roster.table = some table := htable
  obtain ⟨cache', metrics', hensure, hentries'⟩ := gives_ensureTable hkept
  refine ⟨cache', metrics', hlayouts.bind (hensure.bind (Gives.pure _ _)), fun e he hname => ?_⟩
  rcases hentries' e he with he | htableEntry
  · rcases hentries e he with he | ⟨-, hvalue⟩
    · exact h.cached e he hname
    · exact hvalue
  · exact absurd (hname.symm.trans htableEntry) (by decide)

/-- A classification that deletes an article or skips it does not go by the configuration. -/
theorem classify_eq_of_unasked {config : LayoutConfig} {record : Record} {operation : Operation}
    (h : (decide (operation = .delete) || !(Record.get record idColumn).holds) = true) (other : LayoutConfig)
    (roster : Roster) (now : Value) :
    classify other roster record operation now = classify config roster record operation now := by
  cases hid : (Record.get record idColumn).holds with
  | false => rw [classify_of_not_holds _ _ _ hid, classify_of_not_holds _ _ _ hid]
  | true =>
    rw [hid, Bool.not_true, Bool.or_false, decide_eq_true_eq] at h
    rw [h, classify_delete _ _ _ hid, classify_delete _ _ _ hid]

/-- The pipeline with the roster that a classification leaves, and with all counted that came up. -/
def finished (pipeline : Pipeline) (operation : Operation) (classified : Classified) : Pipeline :=
  { pipeline with
    roster := classified.roster
    metrics :=
      pipeline.metrics.recordAll (classified.trace ++ [.classification operation.name classified.outcome]) }

theorem gives_finish (operation : Operation) (classified : Classified) (pipeline : Pipeline) :
    Gives (finish operation classified) pipeline classified.flags (pipeline.finished operation classified) :=
  (Gives.modify _ _).bind ((Gives.record _ _).bind (Gives.pure _ _))

section

variable {between after : Pipeline} {article : Record} {operation : Operation} {name : String}
  {flags : Option FlagSet} (hname : Operation.ofName? name = some operation)

include hname

/-- A classification that deletes an article or skips it is finished at once. -/
theorem gives_classifyArticle_unasked
    (hunasked : (decide (operation = .delete) || !(Record.get article idColumn).holds) = true)
    (hfinish : Gives (finish operation (classify .empty pipeline.roster article operation pipeline.now)) pipeline
      flags after) :
    Gives (classifyArticle (.record article) name) pipeline flags after := by
  refine (Gives.pure article pipeline).bind ?_
  rw [hname]
  dsimp only
  rw [if_pos hunasked]
  exact (Gives.get pipeline).bind hfinish

variable (hasked : ¬(decide (operation = .delete) || !(Record.get article idColumn).holds) = true)

include hasked

/-- Any other is finished when it is prepared. -/
theorem gives_classifyArticle_prepared
    (hprepare : Gives (Action.attempt (Action.inside 2 prepare)) pipeline (.ok config) between)
    (hfinish : Gives (finish operation (classify config between.roster article operation between.now)) between
      flags after) :
    Gives (classifyArticle (.record article) name) pipeline flags after := by
  refine (Gives.pure article pipeline).bind ?_
  rw [hname]
  dsimp only
  rw [if_neg hasked]
  exact hprepare.bind ((Gives.get between).bind hfinish)

/-- What cannot be prepared is counted as a failure. -/
theorem gives_classifyArticle_unprepared {cause : Failure}
    (hprepare : Gives (Action.attempt (Action.inside 2 prepare)) pipeline (.error cause) between) :
    Gives (classifyArticle (.record article) name) pipeline none
      { between with metrics := between.metrics.recordAll [.classification operation.name .error] } := by
  refine (Gives.pure article pipeline).bind ?_
  rw [hname]
  dsimp only
  rw [if_neg hasked]
  exact hprepare.bind ((Gives.record _ _).bind (Gives.pure none _))

end

/-- **Classifying an article does to the roster what `classify` does under the configuration that is served**, and gives
its flags. Nothing else changes than the cache and the metrics, and the configuration goes on being served. -/
theorem Serves.gives_classifyArticle (h : pipeline.Serves document config depth) (hdepth : 3 ≤ depth) {table : Table}
    (htable : pipeline.roster.table = some table) (article : Record) (operation : Operation) :
    ∃ cache metrics,
      Gives (classifyArticle (.record article) operation.name) pipeline
        (classify config pipeline.roster article operation pipeline.now).flags
        { pipeline with
          roster := (classify config pipeline.roster article operation pipeline.now).roster, cache, metrics } ∧
      ∀ e ∈ cache.entries, e.1 = layoutsEntry → e.2.value = .layouts config := by
  have hname : Operation.ofName? operation.name = some operation := by
    cases operation <;> decide +kernel
  by_cases hunasked : (decide (operation = .delete) || !(Record.get article idColumn).holds) = true
  · have hfinish := gives_finish operation (classify config pipeline.roster article operation pipeline.now) pipeline
    rw [← classify_eq_of_unasked hunasked .empty] at hfinish ⊢
    exact ⟨pipeline.cache, _, gives_classifyArticle_unasked hname hunasked hfinish, h.cached⟩
  · have hroom : 1 ≤ depth - 2 := by omega
    have hsteps : 2 ≤ depth := by omega
    obtain ⟨cache, metrics, hprepare, hentries⟩ := (h.inside hsteps).gives_prepare hroom htable
    have hprepared := (Gives.inside hprepare).attempt
    exact ⟨cache, _, gives_classifyArticle_prepared hname hunasked hprepared (gives_finish operation _ _), hentries⟩

end Pipeline

end FrontPage
