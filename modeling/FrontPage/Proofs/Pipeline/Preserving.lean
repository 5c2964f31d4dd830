import FrontPage.Pipeline.Hooks
import FrontPage.Proofs.Cache.Lookup
import FrontPage.Proofs.Pipeline.Running

/-!
# What actions preserve

An action preserves a property of pipelines if it leads from pipelines that have it to such pipelines, whether it fails
or not (`Preserves`). There is one lemma for each way of making an action. Reading and rendering change the store, the
cache and what is counted, and nothing else, so that they preserve what does not depend on these (`Untouched`); what
classifying an article preserves as well, hooks do (`preserves_runNamedHook`).
-/

namespace FrontPage

/-- From pipelines with a property, the action leads to such pipelines, whether it fails or not. -/
def Preserves {α : Type} (P : Pipeline → Prop) (action : Action α) : Prop :=
  ∀ pipeline, P pipeline → P (action.run pipeline).2

namespace Preserves

open FrontPage.Action

variable {α β : Type} {P : Pipeline → Prop} {action : Action α} {next : α → Action β}

theorem pure (a : α) : Preserves P (Pure.pure a : Action α) := fun _ h => h

theorem throw (cause : Failure) : Preserves P (MonadExcept.throw cause : Action α) := fun _ h => h

theorem bind (h : Preserves P action) (hnext : ∀ a, Preserves P (next a)) : Preserves P (action >>= next) := by
  intro pipeline hbefore
  have hfirst := h pipeline hbefore
  rw [run_bind]
  cases (action.run pipeline).1 with
  | ok a => exact hnext a _ hfirst
  | error cause => exact hfirst

/-- What is read first is a pipeline with the property. -/
theorem get_bind {next : Pipeline → Action β} (h : ∀ pipeline, P pipeline → Preserves P (next pipeline)) :
    Preserves P (MonadState.get >>= next) :=
  fun pipeline hbefore => h pipeline hbefore pipeline hbefore

theorem set {after : Pipeline} (h : P after) : Preserves P (MonadStateOf.set after : Action PUnit) := fun _ _ => h

theorem modify {f : Pipeline → Pipeline} (h : ∀ pipeline, P pipeline → P (f pipeline)) :
    Preserves P (modify f : Action PUnit) :=
  h

theorem map (h : Preserves P action) (f : α → β) : Preserves P (f <$> action) := by
  intro pipeline hbefore
  rw [run_map_snd]
  exact h pipeline hbefore

theorem attempt (h : Preserves P action) : Preserves P (attempt action) := h

/-- After an attempt there are two ways to go on. -/
theorem attempt_bind {next : Except Failure α → Action β} (h : Preserves P action)
    (hok : ∀ a, Preserves P (next (.ok a))) (herror : ∀ cause, Preserves P (next (.error cause))) :
    Preserves P (Action.attempt action >>= next) := by
  refine bind (attempt h) fun result => ?_
  cases result with
  | ok a => exact hok a
  | error cause => exact herror cause

/-- Two ways to begin may lead to the same end. -/
theorem ite_bind {c : Prop} [Decidable c] {other : Action α} (h : Preserves P action) (hother : Preserves P other)
    (hnext : ∀ a, Preserves P (next a)) : Preserves P (if c then action >>= next else other >>= next) := by
  split
  · exact bind h hnext
  · exact bind hother hnext

/-- What comes after a result is only reached with that result. -/
theorem ofExcept_bind {ε : Type} {cause : ε → Failure} {result : Except ε α}
    (h : ∀ a, result = .ok a → Preserves P (next a)) : Preserves P (ofExcept cause result >>= next) := by
  intro pipeline hbefore
  cases result with
  | ok a => exact h a rfl pipeline hbefore
  | error e => exact hbefore

theorem ofExcept {ε : Type} (cause : ε → Failure) (result : Except ε α) : Preserves P (ofExcept cause result) := by
  cases result with
  | ok a => exact pure a
  | error e => exact throw (cause e)

theorem forM {action : α → Action PUnit} (h : ∀ item, Preserves P (action item)) (items : List α) :
    Preserves P (items.forM action) := by
  induction items with
  | nil => exact pure _
  | cons item rest ih => exact bind (h item) fun _ => ih

end Preserves

/-! ## Properties that are not touched -/

/-- A classification is counted. -/
def Counter.isClassification : Counter → Bool
  | .classification .. => true
  | _ => false

/-- None of what came up is a classification. -/
def Unclassified (counters : List Counter) : Prop := ∀ counter ∈ counters, counter.isClassification = false

theorem unclassified_singleton {counter : Counter} (h : counter.isClassification = false) : Unclassified [counter] := by
  intro other ho
  rw [List.mem_singleton.mp ho, h]

/-- Running a statement counts no classification. -/
theorem Query.unclassified_trace {α : Type} (query : Query) (result : Except StatementError α) :
    Unclassified (query.trace result) := by
  have hquery (succeeded : Bool) :
      Unclassified (query.operation?.map fun operation => Counter.query operation succeeded).toList := by
    intro counter hm
    obtain ⟨operation, -, rfl⟩ := Option.map_eq_some_iff.mp (Option.mem_toList.mp hm)
    rfl
  cases result with
  | ok a => exact hquery true
  | error cause =>
    cases cause with
    | outage message => exact fun _ hm => absurd hm List.not_mem_nil
    | _ => exact hquery false

/-- The property does not depend on the store, on what is counted besides classifications, or on what is cached under
certain names. -/
structure Untouched (P : Pipeline → Prop) (moves : String → Prop) : Prop where
  store : ∀ {pipeline}, P pipeline → ∀ store, P { pipeline with store }
  recordAll : ∀ {pipeline}, P pipeline → ∀ {counters}, Unclassified counters →
    P { pipeline with metrics := pipeline.metrics.recordAll counters }
  cache : ∀ {pipeline}, P pipeline → ∀ {cache : Cache String Cached},
    (∀ name, ¬moves name → cache.entry? name = pipeline.cache.entry? name) → P { pipeline with cache }

namespace Untouched

open FrontPage.Action

variable {α : Type} {P : Pipeline → Prop} {moves : String → Prop} {action : Action α}

theorem preserves_record (h : Untouched P moves) {counters : List Counter} (hcounters : Unclassified counters) :
    Preserves P (record counters) :=
  .modify fun _ hbefore => h.recordAll hbefore hcounters

theorem preserves_record_one (h : Untouched P moves) {counter : Counter} (hcounter : counter.isClassification = false) :
    Preserves P (record [counter]) :=
  h.preserves_record (unclassified_singleton hcounter)

theorem preserves_withRoom (h : Untouched P moves) (room : Nat) (haction : Preserves P action) :
    Preserves P (withRoom room action) := by
  intro pipeline hbefore
  have hinside := haction { pipeline with store := { pipeline.store with room } } (h.store hbefore _)
  exact h.store hinside _

theorem preserves_inside (h : Untouched P moves) (steps : Nat) (haction : Preserves P action) :
    Preserves P (inside steps action) :=
  .get_bind fun _ _ => h.preserves_withRoom _ haction

theorem preserves_ask (h : Untouched P moves) (query : Query) (statement : Roster → Except StatementError α) :
    Preserves P (ask query statement) :=
  .get_bind fun _ _ => .bind (h.preserves_record (query.unclassified_trace _)) fun _ => .ofExcept _ _

/-- Asking for an entry changes no other entry. -/
theorem preserves_cached? (h : Untouched P moves) {name : String} (hname : moves name) :
    Preserves P (cached? name) := by
  refine .get_bind fun pipeline hbefore => .bind (.set ?_) fun _ => .bind (h.preserves_record_one rfl) fun _ => .pure _
  refine h.cache hbefore fun other ho => (Cache.entry?_get pipeline.cache name other pipeline.time).trans (if_neg ?_)
  rintro ⟨he, -⟩
  have hsame : other = name := eq_of_beq he
  rw [hsame] at ho
  exact ho hname

/-- Caching something changes no other entry. -/
theorem preserves_cacheAs (h : Untouched P moves) {name : String} (hname : moves name) (value : Cached) (ttl : Value) :
    Preserves P (cacheAs name value ttl) := by
  refine .get_bind fun pipeline hbefore => .ofExcept_bind fun cache hset => .set (h.cache hbefore fun other ho => ?_)
  rw [Cache.set] at hset
  cases hexpiry : pipeline.time.later ttl with
  | error cause =>
    rw [hexpiry] at hset
    cases hset
  | ok expiry =>
    rw [hexpiry] at hset
    cases hset
    refine (Cache.entry?_put pipeline.cache name other value expiry).trans (if_neg fun he => ?_)
    have hsame : other = name := eq_of_beq he
    rw [hsame] at ho
    exact ho hname

theorem preserves_putObject (h : Untouched P moves) (key : Value) (content : Content) (type : Option Value) :
    Preserves P (putObject key content type) := by
  refine .get_bind fun pipeline hbefore => ?_
  dsimp only
  split
  · exact .bind (.throw _) fun _ => .ofExcept_bind fun key _ => .bind (.set (h.store hbefore _)) fun _ => .ofExcept _ _
  · exact .ofExcept_bind fun key _ => .bind (.set (h.store hbefore _)) fun _ => .ofExcept _ _

end Untouched

namespace Pipeline

open FrontPage.Action

variable {P : Pipeline → Prop} {moves : String → Prop}

/-! ## Reading -/

theorem preserves_document? (key : Value) : Preserves P (document? key) := by
  refine .get_bind fun pipeline _ => ?_
  split
  · exact .bind (.throw _) fun _ => .ofExcept _ _
  · exact .ofExcept _ _

theorem preserves_loadLayouts (h : Untouched P moves) : Preserves P loadLayouts := by
  refine .get_bind fun pipeline _ => .bind (.attempt (h.preserves_inside 1 (preserves_document? _))) fun read => ?_
  split
  · exact .pure _
  · exact .pure _

theorem preserves_activeLayouts (h : Untouched P moves) (hlayouts : moves layoutsEntry) :
    Preserves P activeLayouts := by
  refine .bind (h.preserves_cached? hlayouts) fun found => ?_
  split
  · exact .pure _
  · refine .bind (preserves_loadLayouts h) fun loaded => ?_
    split
    · exact .pure _
    · exact .get_bind fun _ _ => .bind (h.preserves_cacheAs hlayouts _ _) fun _ => .pure _

theorem preserves_classifiedItems (h : Untouched P moves) (hitems : moves itemsEntry) :
    Preserves P classifiedItems := by
  refine .bind (h.preserves_cached? hitems) fun found => ?_
  split
  · exact .pure _
  · refine .bind (.attempt (h.preserves_ask _ _)) fun scanned => ?_
    split
    · exact .throw _
    · exact .throw _
    · exact .get_bind fun _ _ => .bind (h.preserves_cacheAs hitems _ _) fun _ => .pure _

/-! ## Rendering -/

theorem preserves_renderLayouts (h : Untouched P moves) (items : ItemSet) (layouts : List Layout) :
    Preserves P (renderLayouts items layouts) := by
  induction layouts with
  | nil => exact .pure _
  | cons layout rest ih =>
    exact .get_bind fun _ _ => .bind (.ofExcept _ _) fun _ => .bind (h.preserves_record_one rfl) fun _ =>
      .bind ih fun _ => .pure _

theorem preserves_publishSync (h : Untouched P moves) (file : Value) (content : Content) (type : Value) :
    Preserves P (publishSync file content type) := by
  refine .ite_bind (.pure _) (.map (.ofExcept _ _) _) fun type => ?_
  refine .attempt_bind (h.preserves_inside 1 (h.preserves_putObject _ _ _)) (fun _ => h.preserves_record_one rfl)
    fun cause => ?_
  exact .bind (h.preserves_record_one rfl) fun _ => .throw _

theorem preserves_publishAsync (h : Untouched P moves) (file : Value) (content : Content) (type : Value) :
    Preserves P (publishAsync file content type) := by
  refine .ite_bind (.pure _) (.map (.ofExcept _ _) _) fun type => ?_
  exact .attempt_bind (h.preserves_withRoom _ (h.preserves_putObject _ _ _)) (fun _ => h.preserves_record_one rfl)
    fun _ => h.preserves_record_one rfl

theorem preserves_publishCombined (h : Untouched P moves) (artifacts : List Artifact) :
    Preserves P (publishCombined artifacts) := by
  unfold publishCombined
  split
  · exact .pure _
  · exact .get_bind fun _ _ => .bind (preserves_publishSync h _ _ _) fun _ => .pure _

/-- The pages of the active layouts with the articles that they are made of. -/
def renderStage : Action (ItemSet × List (RenderResult × Option Artifact)) := do
  let layouts := (← activeLayouts).active
  let items ← classifiedItems
  let rendered ← renderLayouts items layouts
  pure (items, rendered)

/-- Publishing artifacts: the combined file, and then the files of their own. It gives how many files there were. -/
def publishStage (artifacts : List Artifact) : Action Nat := do
  let combined ← publishCombined artifacts
  let own := ownFiles (← get).environment.combinedFile artifacts
  own.forM fun artifact =>
    publishAsync artifact.file (.text artifact.content) (.text (contentTypeOf artifact.extension))
  pure (combined + own.length)

/-- A report is made in two stages: everything is rendered before anything is published. -/
theorem renderReport_eq_stages : renderReport = inside 1 (do
    let (items, rendered) ← renderStage
    let written ← publishStage (rendered.filterMap (·.2))
    pure ⟨rendered.map (·.1), written, items.all.length⟩) := by
  unfold renderReport renderStage publishStage
  simp only [bind_assoc, pure_bind]

theorem preserves_publishStage (h : Untouched P moves) (artifacts : List Artifact) :
    Preserves P (publishStage artifacts) :=
  .bind (preserves_publishCombined h artifacts) fun _ => .get_bind fun _ _ =>
    .bind (.forM (fun _ => preserves_publishAsync h _ _ _) _) fun _ => .pure _

theorem preserves_renderReport (h : Untouched P moves) (hlayouts : moves layoutsEntry) (hitems : moves itemsEntry) :
    Preserves P renderReport := by
  have hrender : Preserves P renderStage :=
    .bind (preserves_activeLayouts h hlayouts) fun _ => .bind (preserves_classifiedItems h hitems) fun _ =>
      .bind (preserves_renderLayouts h _ _) fun _ => .pure _
  rw [renderReport_eq_stages]
  exact h.preserves_inside 1 (.bind hrender fun _ => .bind (preserves_publishStage h _) fun _ => .pure _)

/-! ## Classifying -/

theorem preserves_articleOf (item : Value) : Preserves P (articleOf item) := by
  unfold articleOf
  split
  · exact .pure _
  · split
    · exact .throw _
    · exact .pure _

/-- Looking for the table may make one, and changes its entry. -/
theorem preserves_ensureTable (h : Untouched P moves) (htable : moves tableEntry)
    (hmade : ∀ pipeline, P pipeline → P { pipeline with roster := pipeline.roster.withTable }) :
    Preserves P ensureTable := by
  have hprobe : Preserves P probeTable := by
    refine .get_bind fun pipeline _ => ?_
    have hfound : Preserves P (do
        modify fun pipeline => { pipeline with roster := pipeline.roster.withTable }
        cacheAs tableEntry .tableExists (← get).environment.tableTtl) :=
      .bind (.modify hmade) fun _ => .get_bind fun _ _ => h.preserves_cacheAs htable _ _
    split
    · exact .bind (.throw _) fun _ => hfound
    · exact hfound
  refine .bind (h.preserves_cached? htable) fun found => ?_
  split
  · exact .pure _
  · exact .map (.attempt hprobe) _

theorem preserves_prepare (h : Untouched P moves) (hlayouts : moves layoutsEntry) (htable : moves tableEntry)
    (hmade : ∀ pipeline, P pipeline → P { pipeline with roster := pipeline.roster.withTable }) :
    Preserves P prepare :=
  .bind (preserves_activeLayouts h hlayouts) fun _ => .bind (preserves_ensureTable h htable hmade) fun _ => .pure _

end Pipeline

/-- The property is not touched, and it is kept by what a classification does with the roster and the metrics. -/
structure Unharmed (P : Pipeline → Prop) (moves : String → Prop) : Prop extends Untouched P moves where
  withTable : ∀ pipeline, P pipeline → P { pipeline with roster := pipeline.roster.withTable }
  classified : ∀ {pipeline}, P pipeline → ∀ config record operation,
    P { pipeline with roster := (classify config pipeline.roster record operation pipeline.now).roster }
  metrics : ∀ {pipeline}, P pipeline → ∀ metrics, P { pipeline with metrics }

namespace Pipeline

open FrontPage.Action

variable {P : Pipeline → Prop} {moves : String → Prop}

/-- Counting a classification does no harm either. -/
theorem preserves_record (h : Unharmed P moves) (counters : List Counter) : Preserves P (record counters) :=
  .modify fun _ hbefore => h.metrics hbefore _

theorem preserves_classifyArticle (h : Unharmed P moves) (hlayouts : moves layoutsEntry) (htable : moves tableEntry)
    (item : Value) (operation : String) : Preserves P (classifyArticle item operation) := by
  refine .bind (preserves_articleOf item) fun fields => ?_
  -- A classification takes the roster that it has read, so the property of the pipeline at that moment counts.
  have hfinish (config : LayoutConfig) (operation : Operation) : Preserves P (do
      let pipeline ← get
      finish operation (classify config pipeline.roster fields operation pipeline.now)) := by
    intro pipeline hbefore
    exact h.metrics (h.classified hbefore config fields operation) _
  split
  · exact .pure _
  · split
    · exact hfinish _ _
    · refine .attempt_bind (h.preserves_inside 2 (preserves_prepare h.toUntouched hlayouts htable h.withTable))
        (fun config => hfinish config _) fun cause => ?_
      exact .bind (preserves_record h _) fun _ => .pure _

/-! ## Hooks -/

theorem preserves_asRecord (value : Value) : Preserves P (asRecord value) := by
  unfold asRecord
  split
  · exact .pure _
  · exact .throw _

theorem preserves_handBack {data : Value} {work : Action Value} (h : Preserves P work) :
    Preserves P (handBack data work) :=
  .attempt_bind h (fun _ => .pure _) fun _ => .pure _

theorem preserves_renderAfterwards (h : Untouched P moves) (hlayouts : moves layoutsEntry) (hitems : moves itemsEntry) :
    Preserves P renderAfterwards := by
  have hasked : Preserves P rendersAfterwards := by
    refine .get_bind fun pipeline _ => ?_
    dsimp only
    split
    · exact .pure _
    · exact .throw _
  refine .bind hasked fun renders => ?_
  split
  · exact .map (.attempt (h.preserves_inside 1 (preserves_renderReport h hlayouts hitems))) _
  · exact .pure _

theorem preserves_resolveArticleMenu (h : Untouched P moves) (article : Record) :
    Preserves P (resolveArticleMenu article) := by
  refine .get_bind fun pipeline _ => ?_
  cases pipeline.outages.menu
  case' some message => refine .bind (.throw _) fun _ => ?_
  all_goals
    split
    · exact .pure _
    · exact .attempt_bind (h.preserves_inside 1 (preserves_document? _)) (fun _ => .pure _) fun _ => .pure _

theorem preserves_updated (previous changes : Value) : Preserves P (updated previous changes) := by
  refine .bind (preserves_asRecord changes) fun fields => ?_
  split
  · exact .pure _
  · exact .throw _

section

variable (h : Unharmed P moves) (hmoves : ∀ name ∈ pipelineEntries, moves name)

include h hmoves

theorem preserves_classifyAndRender (workplace : Workplace) (article : Value) (operation : Operation) :
    Preserves P (classifyAndRender workplace article operation) := by
  have hlayouts : moves layoutsEntry := hmoves _ (by decide)
  have hitems : moves itemsEntry := hmoves _ (by decide)
  have htable : moves tableEntry := hmoves _ (by decide)
  cases workplace with
  | pipeline =>
    exact .bind (.map (preserves_classifyArticle h hlayouts htable article operation.name) _) fun _ =>
      preserves_renderAfterwards h.toUntouched hlayouts hitems
  | missing => exact .pure _
  | foreign => exact .bind (preserves_articleOf article) fun _ => preserves_record h _

theorem preserves_runHook (hook : Hook) (data previous : Value) (workplace : Workplace) :
    Preserves P (runHook hook data previous workplace) := by
  have hmenu : Preserves P (if workplace = .pipeline then
      handBack data do pure (.record (← resolveArticleMenu (← asRecord data))) else pure data) := by
    split
    · exact preserves_handBack (.bind (preserves_asRecord data) fun _ =>
        .bind (preserves_resolveArticleMenu h.toUntouched _) fun _ => .pure _)
    · exact .pure _
  refine h.preserves_inside 2 ?_
  cases hook with
  | beforeCreate => exact hmenu
  | beforeUpdate => exact hmenu
  | beforeDelete => exact .pure _
  | afterCreate =>
    exact .bind (preserves_asRecord data) fun _ => preserves_handBack
      (.bind (preserves_classifyAndRender h hmoves workplace data .create) fun _ => .pure _)
  | afterUpdate =>
    exact .bind (preserves_asRecord data) fun _ => preserves_handBack
      (.bind (preserves_updated previous data) fun _ =>
        .bind (preserves_classifyAndRender h hmoves workplace _ .update) fun _ => .pure _)
  | afterDelete =>
    refine .bind (preserves_asRecord data) fun _ => preserves_handBack ?_
    split
    · exact .pure _
    · exact .bind (.map (preserves_classifyArticle h (hmoves _ (by decide)) (hmoves _ (by decide)) _ _) _) fun _ =>
        .pure _

/-- **Hooks preserve what classifying an article preserves.** -/
theorem preserves_runNamedHook (moduleName hookName : Value) (arguments : List Value) (workplace : Workplace) :
    Preserves P (runNamedHook moduleName hookName arguments workplace) := by
  refine .bind (.ofExcept _ _) fun found => ?_
  split
  · exact .pure _
  · exact .pure _
  · split
    · exact .throw _
    · exact preserves_runHook h hmoves _ _ _ _
  · split
    · exact preserves_runHook h hmoves _ _ _ _
    · exact preserves_runHook h hmoves _ _ _ _
  · split
    · exact preserves_runHook h hmoves _ _ _ _
    · exact .throw _
  · exact .throw _

end

end Pipeline

end FrontPage
