import FrontPage.Proofs.Pipeline.Preserving

/-!
# What actions leave alone

An action keeps a name if, failing or not, it leaves the settings, the clock and the cache's entry under the name as
they were (`Keeps`). Only what reads the layouts changes the entry of the layouts, and only what reads the articles that
of the articles: everything else preserves them (`SameEntry.unharmed`).
-/

namespace FrontPage

/-- The pipelines have the same settings, the same time on the clock and the same entry under a name. -/
structure SameEntry (name : String) (pipeline other : Pipeline) : Prop where
  environment : other.environment = pipeline.environment
  time : other.time = pipeline.time
  entry : other.cache.entry? name = pipeline.cache.entry? name

theorem SameEntry.refl (name : String) (pipeline : Pipeline) : SameEntry name pipeline pipeline := ⟨rfl, rfl, rfl⟩

theorem SameEntry.trans {name : String} {pipeline between other : Pipeline} (h : SameEntry name pipeline between)
    (h' : SameEntry name between other) : SameEntry name pipeline other :=
  ⟨h'.environment.trans h.environment, h'.time.trans h.time, h'.entry.trans h.entry⟩

/-- Having the same entry as a given pipeline depends on nothing that is cached under other names. -/
theorem SameEntry.unharmed (name : String) (base : Pipeline) : Unharmed (SameEntry name base) (· ≠ name) where
  store h _ := ⟨h.environment, h.time, h.entry⟩
  recordAll h _ _ := ⟨h.environment, h.time, h.entry⟩
  cache h _ hentries := ⟨h.environment, h.time, (hentries name (not_not_intro rfl)).trans h.entry⟩
  withTable _ h := ⟨h.environment, h.time, h.entry⟩
  classified h _ _ _ := ⟨h.environment, h.time, h.entry⟩
  metrics h _ := ⟨h.environment, h.time, h.entry⟩

/-- From pipelines with the same entry as a given one, the action leads to such pipelines, whether it fails or not. -/
def Keeps {α : Type} (name : String) (base : Pipeline) (action : Action α) : Prop :=
  ∀ pipeline, SameEntry name base pipeline → SameEntry name base (action.run pipeline).2

namespace Keeps

open FrontPage.Action

variable {α β : Type} {name : String} {base : Pipeline} {action : Action α} {next : α → Action β}

/-- An action that keeps a name leaves its entry. -/
theorem sameEntry {pipeline : Pipeline} (h : Keeps name pipeline action) :
    SameEntry name pipeline (action.run pipeline).2 :=
  h pipeline (.refl name pipeline)

theorem pure (a : α) : Keeps name base (Pure.pure a : Action α) := Preserves.pure a

theorem bind (h : Keeps name base action) (hnext : ∀ a, Keeps name base (next a)) :
    Keeps name base (action >>= next) :=
  Preserves.bind h hnext

/-- What is read first is a pipeline with the same entry. -/
theorem get_bind {next : Pipeline → Action β}
    (h : ∀ pipeline, SameEntry name base pipeline → Keeps name base (next pipeline)) :
    Keeps name base (MonadState.get >>= next) :=
  Preserves.get_bind h

theorem map (h : Keeps name base action) (f : α → β) : Keeps name base (f <$> action) := Preserves.map h f

theorem inside (steps : Nat) (h : Keeps name base action) : Keeps name base (inside steps action) :=
  (SameEntry.unharmed name base).preserves_inside steps h

theorem record (counters : List Counter) : Keeps name base (record counters) :=
  Pipeline.preserves_record (SameEntry.unharmed name base) counters

end Keeps

namespace Pipeline

open FrontPage.Action

variable {name : String} {base : Pipeline}

/-- Reading the layouts changes no other entry. -/
theorem keeps_activeLayouts (hne : name ≠ layoutsEntry) : Keeps name base activeLayouts :=
  preserves_activeLayouts (SameEntry.unharmed name base).toUntouched hne.symm

/-- Reading the articles changes no other entry. -/
theorem keeps_classifiedItems (hne : name ≠ itemsEntry) : Keeps name base classifiedItems :=
  preserves_classifiedItems (SameEntry.unharmed name base).toUntouched hne.symm

/-- Looking for the table changes no other entry. -/
theorem keeps_ensureTable (hne : name ≠ tableEntry) : Keeps name base ensureTable :=
  preserves_ensureTable (SameEntry.unharmed name base).toUntouched hne.symm (SameEntry.unharmed name base).withTable

theorem keeps_finish (operation : Operation) (classified : Classified) :
    Keeps name base (finish operation classified) :=
  fun _ h => ⟨h.environment, h.time, h.entry⟩

/-- A classification keeps what it keeps when it gets the layouts that it goes by. -/
theorem keeps_classifyArticle (hlayouts : name ≠ layoutsEntry) (htable : name ≠ tableEntry) (item : Value)
    (operation : String) : Keeps name base (classifyArticle item operation) :=
  preserves_classifyArticle (SameEntry.unharmed name base) hlayouts.symm htable.symm item operation

theorem keeps_renderLayouts (items : ItemSet) (layouts : List Layout) : Keeps name base (renderLayouts items layouts) :=
  preserves_renderLayouts (SameEntry.unharmed name base).toUntouched items layouts

theorem keeps_publishStage (artifacts : List Artifact) : Keeps name base (publishStage artifacts) :=
  preserves_publishStage (SameEntry.unharmed name base).toUntouched artifacts

/-- Making a report changes no other entries than those of the layouts and the articles. -/
theorem keeps_renderReport (hlayouts : name ≠ layoutsEntry) (hitems : name ≠ itemsEntry) :
    Keeps name base renderReport :=
  preserves_renderReport (SameEntry.unharmed name base).toUntouched hlayouts.symm hitems.symm

end Pipeline

end FrontPage
