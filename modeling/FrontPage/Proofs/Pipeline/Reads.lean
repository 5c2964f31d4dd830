import FrontPage.Proofs.Pipeline.Caching
import FrontPage.Proofs.Pipeline.Keeping

/-!
# What is read through the cache

The layouts and the articles are read through the cache (`Source.read`). Where something live is cached, a read gives
that. Otherwise it goes by what the source says at that moment (`Source.fresh`): a value is cached until its time to
live has passed, a layout document that cannot be loaded gives the configuration without layouts, which is not cached,
and articles that cannot be scanned are a failure (`Source.run_read`).
-/

namespace FrontPage

open Pipeline

/-- The layout document or the articles of the roster, as they are read through the cache. -/
inductive Source where
  | layouts
  | items
  deriving DecidableEq, Repr

/-- What a source says: a value to be cached, a value that only stands in for one, or why there is none. -/
inductive Reading where
  | value (value : Cached)
  | substitute (value : Cached)
  | failure (cause : Failure)

namespace Pipeline

/-- The pipeline as an action inside so many steps of work sees it. -/
def within (pipeline : Pipeline) (steps : Nat) : Pipeline :=
  { pipeline with store := { pipeline.store with room := pipeline.store.room - steps } }

/-- What comes of reading the document under a key inside a step of work. -/
def documentUnder (pipeline : Pipeline) (key : Value) : Except Failure (Option Value) :=
  match pipeline.outages.document with
  | some message => .error (.store (.outage message))
  | none => (ObjectStore.keyText key >>= (pipeline.within 1).store.getJson?).mapError .store

/-- The configuration of the layout document as it stands; none if it is absent or cannot be loaded. -/
def documentConfig? (pipeline : Pipeline) : Option LayoutConfig :=
  match pipeline.outages.document,
    ObjectStore.keyText pipeline.environment.layoutsKey >>= (pipeline.within 1).store.getJson? with
  | none, .ok (some document) => (LayoutConfig.ofDocument document).toOption
  | _, _ => none

end Pipeline

namespace Source

/-- The name under which the source is cached. -/
def entry : Source → String
  | .layouts => layoutsEntry
  | .items => itemsEntry

/-- How long what the source says is cached. -/
def ttl (environment : Environment) : Source → Value
  | .layouts => environment.layoutsTtl
  | .items => environment.itemsTtl

/-- Reading the source through the cache. -/
def read : Source → Action Cached
  | .layouts => .layouts <$> activeLayouts
  | .items => .items <$> classifiedItems

/-- What the source says as the pipeline stands. -/
def fresh (pipeline : Pipeline) : Source → Reading
  | .layouts =>
    match pipeline.documentConfig? with
    | some config => .value (.layouts config)
    | none => .substitute (.layouts .empty)
  | .items =>
    match pipeline.roster.scan with
    | .ok articles => .value (.items (.ofArticles articles))
    | .error cause => .failure (.rosterUnreadable (Roster.scanMessage cause))

/-- A value is of the kind that the source says. -/
def IsOf : Source → Cached → Prop
  | .layouts, value => ∃ config, value = .layouts config
  | .items, value => ∃ items, value = .items items

/-- What the source says is of its kind. -/
theorem isOf_of_fresh {source : Source} {pipeline : Pipeline} {value : Cached}
    (h : source.fresh pipeline = .value value) : source.IsOf value := by
  cases source with
  | layouts =>
    rw [fresh] at h
    cases hconfig : pipeline.documentConfig? with
    | some config =>
      rw [hconfig] at h
      cases h
      exact ⟨config, rfl⟩
    | none =>
      rw [hconfig] at h
      cases h
  | items =>
    rw [fresh] at h
    cases hscan : pipeline.roster.scan with
    | ok articles =>
      rw [hscan] at h
      cases h
      exact ⟨_, rfl⟩
    | error cause =>
      rw [hscan] at h
      cases h

end Source

namespace Pipeline

open FrontPage.Action

theorem run_inside {α : Type} (steps : Nat) (action : Action α) (pipeline : Pipeline) :
    (inside steps action).run pipeline =
      ((action.run (pipeline.within steps)).1,
        { (action.run (pipeline.within steps)).2 with
          store := { (action.run (pipeline.within steps)).2.store with room := pipeline.store.room } }) :=
  rfl

/-- Reading a document inside a step of work gives what comes of it, and leaves the pipeline as it is. -/
theorem gives_attempt_document? (key : Value) (pipeline : Pipeline) :
    Gives (attempt (inside 1 (document? key))) pipeline (pipeline.documentUnder key) pipeline := by
  have hrun : (document? key).run (pipeline.within 1) = (pipeline.documentUnder key, pipeline.within 1) := by
    unfold documentUnder
    cases houtage : pipeline.outages.document with
    | some message =>
      refine Fails.bind (Gives.get _) ?_
      dsimp only [within]
      rw [houtage]
      exact Fails.bind_first (Fails.throw _ _) _
    | none =>
      cases hread : ObjectStore.keyText key >>= (pipeline.within 1).store.getJson? with
      | error cause =>
        refine Fails.bind (Gives.get _) ?_
        dsimp only [within] at hread ⊢
        rw [houtage, hread]
        exact Fails.ofExcept _ _ _
      | ok document =>
        refine (Gives.get _).bind ?_
        dsimp only [within] at hread ⊢
        rw [houtage, hread]
        exact Gives.ofExcept _ _
  have hinside : (inside 1 (document? key)).run pipeline = (pipeline.documentUnder key, pipeline) := by
    rw [run_inside, hrun]
    rfl
  have hattempt := Gives.attempt_run (inside 1 (document? key)) pipeline
  rw [hinside] at hattempt
  exact hattempt

/-- Loading the layouts gives the configuration of the document as it stands, and changes nothing. -/
theorem gives_loadLayouts (pipeline : Pipeline) : Gives loadLayouts pipeline pipeline.documentConfig? pipeline := by
  refine (Gives.get pipeline).bind ((gives_attempt_document? _ _).bind ?_)
  unfold documentConfig? documentUnder
  cases pipeline.outages.document with
  | some message => exact Gives.pure _ _
  | none =>
    cases ObjectStore.keyText pipeline.environment.layoutsKey >>= (pipeline.within 1).store.getJson? with
    | error cause => exact Gives.pure _ _
    | ok document => cases document <;> exact Gives.pure _ _

end Pipeline

/-! ## Reads -/

namespace Source

/-- What a read gives, and the cache that it leaves. -/
inductive Outcome (source : Source) (pipeline : Pipeline) : Except Failure Cached → Cache String Cached → Prop
  /-- Something live is cached. -/
  | hit {value : Cached} (hlive : pipeline.cache.live? source.entry pipeline.time = some value) :
    Outcome source pipeline (.ok value) (pipeline.cache.get source.entry pipeline.time).2
  /-- The source says a value, which is cached. -/
  | loaded {value : Cached} {expiry : Number} (hlive : pipeline.cache.live? source.entry pipeline.time = none)
    (hfresh : source.fresh pipeline = .value value)
    (hexpiry : pipeline.time.later (source.ttl pipeline.environment) = .ok expiry) :
    Outcome source pipeline (.ok value)
      ((pipeline.cache.get source.entry pipeline.time).2.put source.entry value expiry)
  /-- The source says a value, which cannot be cached. -/
  | refused {value : Cached} {cause : DurationError}
    (hlive : pipeline.cache.live? source.entry pipeline.time = none) (hfresh : source.fresh pipeline = .value value)
    (hexpiry : pipeline.time.later (source.ttl pipeline.environment) = .error cause) :
    Outcome source pipeline (.error (.duration cause)) (pipeline.cache.get source.entry pipeline.time).2
  /-- Another value stands in for what the source should say. -/
  | substituted {value : Cached} (hlive : pipeline.cache.live? source.entry pipeline.time = none)
    (hfresh : source.fresh pipeline = .substitute value) :
    Outcome source pipeline (.ok value) (pipeline.cache.get source.entry pipeline.time).2
  /-- The source says nothing. -/
  | failed {cause : Failure} (hlive : pipeline.cache.live? source.entry pipeline.time = none)
    (hfresh : source.fresh pipeline = .failure cause) :
    Outcome source pipeline (.error cause) (pipeline.cache.get source.entry pipeline.time).2

/-- A read of the source changes the cache and the metrics at most, and ends in one of these ways. -/
def Ends (source : Source) (pipeline : Pipeline) : Prop :=
  ∃ result cache metrics, source.read.run pipeline = (result, { pipeline with cache, metrics }) ∧
    source.Outcome pipeline result cache

/-- The pipeline after its cache was asked for the source. -/
def asked (source : Source) (pipeline : Pipeline) (metrics : Metrics) : Pipeline :=
  { pipeline with cache := (pipeline.cache.get source.entry pipeline.time).2, metrics }

variable {pipeline : Pipeline}

/-- After its cache was asked, a pipeline can cache what expires at a time that can be told. -/
theorem gives_cacheAs (source : Source) (value : Cached) {ttl : Value} {expiry : Number}
    (h : pipeline.time.later ttl = .ok expiry) (metrics : Metrics) :
    Gives (Action.cacheAs source.entry value ttl) (source.asked pipeline metrics) ⟨⟩
      { source.asked pipeline metrics with
        cache := (source.asked pipeline metrics).cache.put source.entry value expiry } :=
  Gives.cacheAs _ _ h

theorem fails_cacheAs (source : Source) (value : Cached) {ttl : Value} {cause : DurationError}
    (h : pipeline.time.later ttl = .error cause) (metrics : Metrics) :
    Fails (Action.cacheAs source.entry value ttl) (source.asked pipeline metrics) (.duration cause)
      (source.asked pipeline metrics) :=
  Gives.fails_cacheAs _ _ h

/-- Something live of the kind that the source says is given. -/
theorem ends_of_live {source : Source} {value : Cached}
    (hlive : pipeline.cache.live? source.entry pipeline.time = some value) (hof : source.IsOf value) :
    source.Ends pipeline := by
  obtain ⟨metrics, hcached⟩ := Gives.cached? source.entry pipeline
  rw [Cache.get_fst, hlive] at hcached
  refine ⟨.ok value, _, metrics, ?_, .hit hlive⟩
  cases source with
  | layouts =>
    obtain ⟨config, rfl⟩ := hof
    exact Gives.map (hcached.bind (Gives.pure config _)) _
  | items =>
    obtain ⟨items, rfl⟩ := hof
    exact Gives.map (hcached.bind (Gives.pure items _)) _

/-- Where no configuration is live, the layout document is loaded. -/
theorem layouts_ends (hlive : pipeline.cache.live? layoutsEntry pipeline.time = none) : layouts.Ends pipeline := by
  obtain ⟨metrics, hcached⟩ := Gives.cached? layoutsEntry pipeline
  rw [Cache.get_fst, hlive] at hcached
  have hload : Gives loadLayouts (layouts.asked pipeline metrics) pipeline.documentConfig?
      (layouts.asked pipeline metrics) := gives_loadLayouts _
  cases hconfig : pipeline.documentConfig? with
  | none =>
    rw [hconfig] at hload
    refine ⟨.ok (.layouts .empty), _, metrics, ?_, .substituted hlive (by rw [fresh, hconfig])⟩
    exact Gives.map (hcached.bind (hload.bind (Gives.pure LayoutConfig.empty _))) _
  | some config =>
    rw [hconfig] at hload
    have hfresh : layouts.fresh pipeline = .value (.layouts config) := by rw [fresh, hconfig]
    cases hexpiry : pipeline.time.later pipeline.environment.layoutsTtl with
    | ok expiry =>
      have hkept := layouts.gives_cacheAs (.layouts config) hexpiry metrics
      refine ⟨.ok (.layouts config), _, metrics, ?_, .loaded hlive hfresh hexpiry⟩
      exact Gives.map (hcached.bind (hload.bind ((Gives.get _).bind (hkept.bind (Gives.pure config _))))) _
    | error cause =>
      have hrefused := layouts.fails_cacheAs (.layouts config) hexpiry metrics
      refine ⟨.error (.duration cause), _, metrics, ?_, .refused hlive hfresh hexpiry⟩
      exact Fails.map (Fails.bind hcached (Fails.bind hload (Fails.bind (Gives.get _)
        (Fails.bind_first hrefused _)))) _

/-- Where no articles are live, the roster is scanned. -/
theorem items_ends (hlive : pipeline.cache.live? itemsEntry pipeline.time = none) : items.Ends pipeline := by
  obtain ⟨metrics, hcached⟩ := Gives.cached? itemsEntry pipeline
  rw [Cache.get_fst, hlive] at hcached
  cases hscan : pipeline.roster.scan with
  | error cause =>
    have hask : ∃ after, Fails (Action.ask .scan Roster.scan) (items.asked pipeline metrics) (.statement cause)
        (items.asked pipeline after) := ⟨_, Fails.ask hscan⟩
    obtain ⟨after, hask⟩ := hask
    refine ⟨.error (.rosterUnreadable (Roster.scanMessage cause)), _, after, ?_, .failed hlive (by rw [fresh, hscan])⟩
    exact Fails.map (Fails.bind hcached (Fails.bind hask.attempt
      (Fails.throw (.rosterUnreadable (Roster.scanMessage cause)) _))) _
  | ok articles =>
    have hask : ∃ after, Gives (Action.ask .scan Roster.scan) (items.asked pipeline metrics) articles
        (items.asked pipeline after) := ⟨_, Gives.ask hscan⟩
    obtain ⟨after, hask⟩ := hask
    have hfresh : items.fresh pipeline = .value (.items (.ofArticles articles)) := by rw [fresh, hscan]
    cases hexpiry : pipeline.time.later pipeline.environment.itemsTtl with
    | ok expiry =>
      have hkept := items.gives_cacheAs (.items (.ofArticles articles)) hexpiry after
      refine ⟨.ok (.items (.ofArticles articles)), _, after, ?_, .loaded hlive hfresh hexpiry⟩
      exact Gives.map (hcached.bind (hask.attempt.bind ((Gives.get _).bind
        (hkept.bind (Gives.pure (ItemSet.ofArticles articles) _))))) _
    | error cause =>
      have hrefused := items.fails_cacheAs (.items (.ofArticles articles)) hexpiry after
      refine ⟨.error (.duration cause), _, after, ?_, .refused hlive hfresh hexpiry⟩
      exact Fails.map (Fails.bind hcached (Fails.bind hask.attempt (Fails.bind (Gives.get _)
        (Fails.bind_first hrefused _)))) _

/-- **A read ends in one of these ways**, if what is cached is of the kind that the source says. -/
theorem run_read (source : Source) (pipeline : Pipeline)
    (htyped : ∀ value, pipeline.cache.live? source.entry pipeline.time = some value → source.IsOf value) :
    ∃ result cache metrics, source.read.run pipeline = (result, { pipeline with cache, metrics }) ∧
      source.Outcome pipeline result cache := by
  cases hlive : pipeline.cache.live? source.entry pipeline.time with
  | some value => exact ends_of_live hlive (htyped value hlive)
  | none =>
    cases source with
    | layouts => exact layouts_ends hlive
    | items => exact items_ends hlive

section

variable {source : Source} {pipeline : Pipeline} {result : Except Failure Cached} {cache : Cache String Cached}
  {value : Cached}

theorem keeps_read {name : String} {base : Pipeline} (hne : name ≠ source.entry) : Keeps name base source.read := by
  cases source with
  | layouts => exact Keeps.map (keeps_activeLayouts hne) _
  | items => exact Keeps.map (keeps_classifiedItems hne) _

/-- What is live is given. -/
theorem Outcome.of_live (h : source.Outcome pipeline result cache)
    (hlive : pipeline.cache.live? source.entry pipeline.time = some value) : result = .ok value := by
  cases h <;> simp_all

/-- Where nothing is live, what the source says is given, and cached if its expiry can be told. -/
theorem Outcome.of_value (h : source.Outcome pipeline result cache)
    (hlive : pipeline.cache.live? source.entry pipeline.time = none) (hfresh : source.fresh pipeline = .value value)
    {expiry : Number} (hexpiry : pipeline.time.later (source.ttl pipeline.environment) = .ok expiry) :
    result = .ok value ∧ cache.entry? source.entry = some ⟨value, expiry⟩ := by
  have hput : Cache.entry? ((pipeline.cache.get source.entry pipeline.time).2.put source.entry value expiry)
      source.entry = some ⟨value, expiry⟩ :=
    (Cache.entry?_put _ _ _ _ _).trans (if_pos (beq_self_eq_true _))
  cases h <;> simp_all

/-- What stands in for it is given and not cached. -/
theorem Outcome.of_substitute (h : source.Outcome pipeline result cache)
    (hlive : pipeline.cache.live? source.entry pipeline.time = none)
    (hfresh : source.fresh pipeline = .substitute value) :
    result = .ok value ∧ cache.entry? source.entry = none := by
  have hasked := Cache.entry?_get_of_not_live hlive
  cases h <;> simp_all

/-- Where it says nothing, nothing is cached. -/
theorem Outcome.of_failure (h : source.Outcome pipeline result cache)
    (hlive : pipeline.cache.live? source.entry pipeline.time = none) {cause : Failure}
    (hfresh : source.fresh pipeline = .failure cause) :
    result = .error cause ∧ cache.entry? source.entry = none := by
  have hasked := Cache.entry?_get_of_not_live hlive
  cases h <;> simp_all

/-- What a read leaves in the cache was there before, or is what it gives. -/
theorem Outcome.mem_entries (h : source.Outcome pipeline result cache) {e : String × CacheEntry Cached}
    (he : e ∈ cache.entries) : e ∈ pipeline.cache.entries ∨ (e.1 = source.entry ∧ result = .ok e.2.value) := by
  cases h with
  | loaded hlive hfresh hexpiry =>
    rcases Cache.mem_put he with he | rfl
    · exact .inl (Cache.mem_get he)
    · exact .inr ⟨rfl, rfl⟩
  | _ => exact .inl (Cache.mem_get he)

/-- A read of the source gives a value: it is cached and live, or the source says it and it can be cached. -/
def Offers (source : Source) (pipeline : Pipeline) (value : Cached) : Prop :=
  source.IsOf value ∧
    (pipeline.cache.live? source.entry pipeline.time = some value ∨
      (pipeline.cache.live? source.entry pipeline.time = none ∧ source.fresh pipeline = .value value ∧
        ∃ expiry, pipeline.time.later (source.ttl pipeline.environment) = .ok expiry))

/-- **What is offered is given.** Nothing else changes than the metrics and the entry of the source, which holds nothing
new but the value. -/
theorem Offers.gives (h : source.Offers pipeline value) :
    ∃ cache metrics, Gives source.read pipeline value { pipeline with cache, metrics } ∧
      (∀ name, name ≠ source.entry → cache.entry? name = pipeline.cache.entry? name) ∧
      ∀ e ∈ cache.entries, e ∈ pipeline.cache.entries ∨ (e.1 = source.entry ∧ e.2.value = value) := by
  obtain ⟨hof, hoffers⟩ := h
  have htyped : ∀ found, pipeline.cache.live? source.entry pipeline.time = some found → source.IsOf found := by
    intro found hfound
    rcases hoffers with hlive | ⟨hnone, -⟩
    · rw [hlive] at hfound
      cases hfound
      exact hof
    · rw [hnone] at hfound
      cases hfound
  obtain ⟨result, cache, metrics, hrun, houtcome⟩ := source.run_read pipeline htyped
  have hresult : result = .ok value := by
    rcases hoffers with hlive | ⟨hnone, hfresh, expiry, hexpiry⟩
    · exact houtcome.of_live hlive
    · exact (houtcome.of_value hnone hfresh hexpiry).1
  rw [hresult] at hrun houtcome
  refine ⟨cache, metrics, hrun, fun name hne => ?_, fun e he => ?_⟩
  · have hkeeps : Keeps name pipeline source.read := keeps_read hne
    have hentry := hkeeps.sameEntry.entry
    rw [hrun] at hentry
    exact hentry
  · exact (houtcome.mem_entries he).imp_right (And.imp_right fun hvalue => (Except.ok.inj hvalue).symm)

end

end Source

namespace Pipeline

variable {pipeline : Pipeline}

/-- The layouts that are offered are given. -/
theorem gives_activeLayouts {config : LayoutConfig} (h : Source.layouts.Offers pipeline (.layouts config)) :
    ∃ cache metrics, Gives activeLayouts pipeline config { pipeline with cache, metrics } ∧
      (∀ name, name ≠ layoutsEntry → cache.entry? name = pipeline.cache.entry? name) ∧
      ∀ e ∈ cache.entries, e ∈ pipeline.cache.entries ∨ (e.1 = layoutsEntry ∧ e.2.value = .layouts config) := by
  obtain ⟨cache, metrics, hgives, hentries⟩ := h.gives
  exact ⟨cache, metrics, Gives.of_map (fun _ _ h => by cases h; rfl) hgives, hentries⟩

/-- The articles that are offered are given. -/
theorem gives_classifiedItems {items : ItemSet} (h : Source.items.Offers pipeline (.items items)) :
    ∃ cache metrics, Gives classifiedItems pipeline items { pipeline with cache, metrics } := by
  obtain ⟨cache, metrics, hgives, -⟩ := h.gives
  exact ⟨cache, metrics, Gives.of_map (fun _ _ h => by cases h; rfl) hgives⟩

end Pipeline

end FrontPage
