import FrontPage.Proofs.Classification.Admitted
import FrontPage.Proofs.Pipeline.Rendering
import FrontPage.Proofs.Store.Documents
import FrontPage.Proofs.Store.Writes
import FrontPage.Proofs.Value.Equality

/-!
# Runs of a pipeline in order

A pipeline with default settings, in which nothing is out of order, and which serves a configuration, is `Ready`. It
stays so with every article that is classified (`Ready.handled`), its table being what the call leaves, and gives a
report on all active layouts whenever its caches are cleared and the layouts rendered (`Ready.gives_renderReport`). What
every call keeps is kept by a run (`admits_tableAfter`).
-/

namespace FrontPage

/-! ## Default settings -/

/-- What the pipeline reads from default settings. -/
def defaultEnvironment : Environment where
  layoutsKey := .text "sys-system-layouts.json"
  menusKey := .text "sys-menus-lov.json"
  combinedFile := .text "layout.js"
  reservedStart := .text "menu"
  layoutsTtl := .int 300
  itemsTtl := .int 60
  tableTtl := .int 600
  rendering := .record [("after_classification", .bool true)]

/-- The directory and the database are nothing to the pipeline. -/
theorem ofSettings_defaultSettings (objectDirectory databaseUri : String) :
    Environment.ofSettings (defaultSettings objectDirectory databaseUri) = .ok defaultEnvironment := rfl

/-! ## Events -/

/-- An article that is created, updated or deleted, with the time of day and of the clock at which it is classified. -/
structure ArticleEvent where
  article : Record
  operation : Operation
  now : Value
  time : Number

/-- The classification of the article of an event under a configuration. -/
def ArticleEvent.call (event : ArticleEvent) (config : LayoutConfig) : Call :=
  { config, record := event.article, operation := event.operation, now := event.now }

/-- The table after the articles of some events were classified one after the other. -/
def tableAfter (config : LayoutConfig) (events : List ArticleEvent) (table : Table) : Table :=
  events.foldl (fun table event => (event.call config).after table) table

/-- A run of classifications keeps the limit of a flag. -/
theorem admits_tableAfter {config : LayoutConfig} {flag : Flag} {limit : Nat}
    (hlimit : ∃ layout, LastNamed config.active flag.layoutName layout ∧ layout.limit = .int limit)
    {events : List ArticleEvent} (hids : ∀ event ∈ events, ∃ id, Record.get event.article idColumn = .int id)
    {table : Table} (h : table.Admits flag limit) : (tableAfter config events table).Admits flag limit := by
  induction events generalizing table with
  | nil => exact h
  | cons event rest ih =>
    obtain ⟨id, hid⟩ := hids event List.mem_cons_self
    have hfirst : ((event.call config).after table).Admits flag limit := Call.admits_after hlimit rfl hid h
    exact ih (fun other ho => hids other (List.mem_cons_of_mem _ ho)) hfirst

/-! ## Pipelines -/

namespace Pipeline

open FrontPage.Action

/-- The pipeline after the article of an event was classified. -/
def handled (pipeline : Pipeline) (event : ArticleEvent) : Pipeline :=
  ((classifyArticle (.record event.article) event.operation.name).run
    { pipeline with now := event.now, time := event.time }).2

/-- The pipeline has default settings, nothing is out of order, and scripts can be written to the combined file. -/
structure InOrder (pipeline : Pipeline) : Prop where
  settings : ∃ objectDirectory databaseUri,
    Environment.ofSettings (defaultSettings objectDirectory databaseUri) = .ok pipeline.environment
  outages : pipeline.outages = {}
  statements : pipeline.roster.outage = fun _ => none
  writes : WritesScripts { pipeline.store with room := pipeline.store.room - 2 }

/-- The pipeline is in order and serves a configuration, and has a certain table. -/
structure Ready (pipeline : Pipeline) (document : Value) (config : LayoutConfig) (table : Table) : Prop where
  inOrder : pipeline.InOrder
  serves : pipeline.Serves document config 3
  table_eq : pipeline.roster.table = some table

variable {pipeline : Pipeline} {document : Value} {config : LayoutConfig} {table : Table}

theorem InOrder.environment_eq (h : pipeline.InOrder) : pipeline.environment = defaultEnvironment := by
  obtain ⟨objectDirectory, databaseUri, hsettings⟩ := h.settings
  rw [ofSettings_defaultSettings] at hsettings
  exact (Except.ok.inj hsettings).symm

namespace Ready

/-- At another time of day, or of the clock, the pipeline is ready as well. -/
theorem at_time (h : pipeline.Ready document config table) (now : Value) (time : Number) :
    Ready { pipeline with now, time } document config table where
  inOrder := ⟨h.inOrder.settings, h.inOrder.outages, h.inOrder.statements, h.inOrder.writes⟩
  serves := by
    refine ⟨h.serves.loads, h.serves.inOrder, h.serves.reads, h.serves.cached, ?_⟩
    show ∃ expiry, time.later pipeline.environment.layoutsTtl = .ok expiry
    rw [h.inOrder.environment_eq]
    exact time.exists_later rfl (by decide +kernel)
  table_eq := h.table_eq

/-- Classifying an article leaves the table that the call leaves. -/
theorem handled (h : pipeline.Ready document config table) (event : ArticleEvent) :
    (pipeline.handled event).Ready document config ((event.call config).after table) := by
  have htimed := h.at_time event.now event.time
  obtain ⟨cache, metrics, hgives, hcached⟩ :=
    htimed.serves.gives_classifyArticle (Nat.le_refl 3) h.table_eq event.article event.operation
  have hroster : (classify config pipeline.roster event.article event.operation event.now).roster =
      { table := some ((event.call config).after table) } := by
    have hfound : (event.call config).roster table = pipeline.roster := by
      rw [Call.roster, ← h.table_eq]
      show { pipeline.roster with outage := fun _ => none } = pipeline.roster
      rw [← h.inOrder.statements]
    have hresult := (event.call config).roster_result table
    rw [Call.result, hfound] at hresult
    exact hresult
  have hafter : pipeline.handled event = { pipeline with
      roster := { table := some ((event.call config).after table) }, cache, now := event.now, time := event.time,
      metrics } := by
    rw [← hroster]
    exact congrArg Prod.snd hgives
  rw [hafter]
  exact ⟨⟨h.inOrder.settings, h.inOrder.outages, rfl, h.inOrder.writes⟩,
    ⟨h.serves.loads, h.serves.inOrder, h.serves.reads, hcached, htimed.serves.expires⟩, rfl⟩

/-- So does classifying articles one after the other. -/
theorem foldl_handled (h : pipeline.Ready document config table) (events : List ArticleEvent) :
    (events.foldl Pipeline.handled pipeline).Ready document config (tableAfter config events table) := by
  induction events generalizing pipeline table with
  | nil => exact h
  | cons event rest ih => exact ih (h.handled event)

/-- The articles can be scanned: they are the records of the active rows. -/
theorem scan_eq (h : pipeline.Ready document config table) :
    pipeline.roster.scan = .ok
      (((table.entries.filter fun e => e.2.get .active == .text "Yes").mergeSort Roster.scanBefore).map
        fun e => e.2.record e.1) := by
  have haccess : pipeline.roster.access .scan = .ok table :=
    (Roster.access_eq_ok_iff h.table_eq).mpr ⟨rfl, by rw [h.inOrder.statements]⟩
  exact bind_eq_ok_iff.mpr ⟨table, haccess, rfl⟩

/-- While no articles are cached, those that can be scanned are rendered. -/
theorem rendersWith (h : pipeline.Ready document config table)
    (hcache : ∀ e ∈ pipeline.cache.entries, e.1 ≠ itemsEntry) {articles : List Record}
    (hscan : pipeline.roster.scan = .ok articles) :
    pipeline.RendersWith config (.ofArticles articles) "menu" "layout.js" where
  reservedStart := by rw [h.inOrder.environment_eq]; rfl
  combinedFile := by rw [h.inOrder.environment_eq]; rfl
  layouts := (h.serves.inside (by omega)).offers (by omega)
  articles := by
    have hlive : pipeline.cache.live? itemsEntry pipeline.time = none := by
      rw [← Cache.get_fst, Cache.get_of_notMem hcache]
    refine ⟨⟨_, rfl⟩, .inr ⟨hlive, by rw [Source.fresh, hscan], ?_⟩⟩
    rw [h.inOrder.environment_eq]
    exact pipeline.time.exists_later rfl (by decide +kernel)
  inOrder := by rw [h.inOrder.outages]
  writes := h.inOrder.writes.to_layoutFile

/-- With its caches cleared the pipeline is ready as well. -/
theorem cleared (h : pipeline.Ready document config table) :
    Ready { pipeline with cache := (pipeline.cache.invalidateAll pipelineEntries).2 } document config table where
  inOrder := ⟨h.inOrder.settings, h.inOrder.outages, h.inOrder.statements, h.inOrder.writes⟩
  serves := ⟨h.serves.loads, h.serves.inOrder, h.serves.reads,
    fun e he => h.serves.cached e (Cache.mem_invalidateAll he).1, h.serves.expires⟩
  table_eq := h.table_eq

/-- When its caches are cleared and the layouts rendered, the pipeline gives a report on all active layouts. -/
theorem gives_renderReport (h : pipeline.Ready document config table)
    (hfiles : ∀ layout ∈ config.active, ∃ file, layout.file = .text file) {articles : List Record}
    (hscan : pipeline.roster.scan = .ok articles) :
    ∃ rendered report after, Rendered (.text "menu") (.ofArticles articles) config.active rendered ∧
      Gives (do let _ ← clearCaches; renderReport) pipeline report after ∧ report.results = rendered.map (·.1) := by
  obtain ⟨rendered, hrendered⟩ := Rendered.exists_of_texts "menu" (.ofArticles articles) hfiles
  have hcache : ∀ e ∈ (pipeline.cache.invalidateAll pipelineEntries).2.entries, e.1 ≠ itemsEntry := by
    intro e he hname
    exact (Cache.mem_invalidateAll he).2 (hname ▸ by decide)
  obtain ⟨report, after, hgives, _, _, _, -, -, rfl⟩ := (h.cleared.rendersWith hcache hscan).gives_renderReport hrendered
  exact ⟨rendered, _, after, hrendered, (Gives.clearCaches pipeline).bind hgives, rfl⟩

end Ready

/-! ## Pipelines with a document -/

/-- A pipeline as it is at first, with a layout document in its store. -/
def ofDocument (text : String) : Pipeline where
  environment := defaultEnvironment
  store := { root := "/store", objects := [(["sys-system-layouts.json"], text.toUTF8)] }
  now := .int 0

/-- Its layout document is what its text says. -/
theorem readLayouts_ofDocument {text : String} {chars : List Char} (htext : text = String.ofList chars) {steps : Nat}
    (hread : (Json.readWhole (mostSteps - steps - readingSteps) chars).toOption = some document) :
    (ofDocument text).readLayouts steps = .ok (some document) := by
  have hjson := Json.read_of_chars htext hread
  have hresolved : Path.resolve? "/store" "sys-system-layouts.json" = some ["sys-system-layouts.json"] := by
    decide +kernel
  have hkey : ObjectStore.keyText (ofDocument text).environment.layoutsKey = .ok "sys-system-layouts.json" := rfl
  have hdocument : ({ (ofDocument text).store with room := mostSteps - steps } : ObjectStore).getJson?
      "sys-system-layouts.json" = .ok (some document) :=
    ObjectStore.getJson?_of_text (ObjectStore.path?_eq_ok_iff.mpr hresolved) rfl hjson
  exact (bind_of_ok hkey _).trans hdocument

/-- In such a pipeline, any text can be put under a name. -/
theorem put_ofDocument (text : String) {key name : String} (hpath : Path.resolve? "/store" key = some [name])
    (hname : name ≠ indexName) (hdraft : ({ root := "/store" } : ObjectStore).draftFlaw? [name] = none)
    (hplace : ({ root := "/store" } : ObjectStore).placeFlaw? [name] = none) (room : Nat) (script : String)
    (type : Value) :
    (({ (ofDocument text).store with room } : ObjectStore).put key (.text script) (some type)).1 = .ok () :=
  ObjectStore.put_text_ok (ObjectStore.path?_eq_ok_iff.mpr hpath) hname hdraft hplace
    (show ({ root := "/store" } : ObjectStore).indexSize ≤ ObjectStore.longestPath by decide +kernel) rfl rfl

/-- Such a pipeline is ready for the configuration of the document. -/
theorem ready_ofDocument {text : String} {chars : List Char} (htext : text = String.ofList chars)
    (hread : ∀ steps : Fin 4, (Json.readWhole (mostSteps - steps - readingSteps) chars).toOption = some document)
    (hloads : LayoutConfig.ofDocument document = .ok config) : (ofDocument text).Ready document config .empty where
  inOrder := by
    refine ⟨⟨"store", "", rfl⟩, rfl, rfl, fun script => ?_⟩
    have hpath : Path.resolve? "/store" "layout.js" = some ["layout.js"] := by decide +kernel
    exact put_ofDocument text hpath (by decide) (by decide +kernel) (by decide +kernel) _ script _
  serves := by
    refine ⟨hloads, rfl, fun steps hsteps => ?_, nofun, ⟨.int 1300, rfl⟩⟩
    exact readLayouts_ofDocument htext (hread ⟨steps, Nat.lt_succ_of_le hsteps⟩)
  table_eq := rfl

end Pipeline

end FrontPage
