import FrontPage.Proofs.Number.Order
import FrontPage.Proofs.Pipeline.Events
import FrontPage.Proofs.Pipeline.Reads
import Mathlib.Data.List.Induction

/-!
# How old what is read can be

The layout document, the roster and the clock change between classifications, reads and renderings
(`PipelineEvent`). Each event leaves the entry of a source as it was, drops it when it has expired, removes it when it
clears the source, or puts in what the source says at that moment until its time to live has passed
(`Source.EntryStep`). So whatever is read was said by the source at a moment not longer ago than that, with no clearing
since (`Source.staleness_bounded`).
-/

namespace FrontPage

open Pipeline

/-! ## Events -/

/-- Something that happens to a pipeline; actions are run inside some steps of work. -/
inductive PipelineEvent where
  /-- The objects in the store change, the layout document among them. -/
  | store (objects : ObjectStore)
  /-- The rows of the roster change, or what is out of order with it. -/
  | roster (rows : Roster)
  /-- What is out of order changes. -/
  | outages (found : Outages)
  /-- The clock of the cache moves. -/
  | clock (time : Number)
  | day (now : Value)
  | classify (steps : Nat) (item : Value) (operation : String)
  | read (steps : Nat) (source : Source)
  | render (steps : Nat)
  | clearCaches
  | forgetItems

namespace PipelineEvent

/-- The pipeline after an event; actions may fail. -/
def after (pipeline : Pipeline) : PipelineEvent → Pipeline
  | .store objects => { pipeline with store := objects }
  | .roster rows => { pipeline with roster := rows }
  | .outages found => { pipeline with outages := found }
  | .clock time => { pipeline with time }
  | .day now => { pipeline with now }
  | .classify steps item operation => ((Action.inside steps (classifyArticle item operation)).run pipeline).2
  | .read steps source => ((Action.inside steps source.read).run pipeline).2
  | .render steps => ((Action.inside steps renderReport).run pipeline).2
  | .clearCaches => (Action.clearCaches.run pipeline).2
  | .forgetItems => (Pipeline.forgetItems.run pipeline).2

/-- The time that the clock moves to, if it moves. -/
def clock? : PipelineEvent → Option Number
  | .clock time => some time
  | _ => none

/-- The event removes what is cached of a source. -/
def clears (source : Source) : PipelineEvent → Bool
  | .clearCaches => true
  | .forgetItems => source = .items
  | _ => false

end PipelineEvent

/-- The pipeline after some events. -/
def Pipeline.run (pipeline : Pipeline) (events : List PipelineEvent) : Pipeline :=
  events.foldl PipelineEvent.after pipeline

/-! ## Steps -/

namespace Source

/-- The source says a value to whom asks for it inside some steps of work. -/
def Says (source : Source) (pipeline : Pipeline) (value : Cached) : Prop :=
  ∃ steps, source.fresh (pipeline.within steps) = .value value

/-- What is cached of the source is of its kind. -/
def Typed (source : Source) (pipeline : Pipeline) : Prop :=
  ∀ entry, pipeline.cache.entry? source.entry = some entry → source.IsOf entry.value

/-- What an event that does not clear a source may do to its entry. -/
inductive EntryStep (source : Source) (pipeline after : Pipeline) : Prop
  | kept (hafter : after.cache.entry? source.entry = pipeline.cache.entry? source.entry)
  | dropped {entry : CacheEntry Cached} (hentry : pipeline.cache.entry? source.entry = some entry)
    (hexpired : pipeline.time.less entry.expiry = false) (hafter : after.cache.entry? source.entry = none)
  | loaded {value : Cached} {expiry : Number} (hlive : pipeline.cache.live? source.entry pipeline.time = none)
    (hsaid : source.Says pipeline value)
    (hexpiry : pipeline.time.later (source.ttl pipeline.environment) = .ok expiry)
    (hafter : after.cache.entry? source.entry = some ⟨value, expiry⟩)

variable {source : Source} {pipeline between after : Pipeline}

theorem EntryStep.of_sameEntry (h : SameEntry source.entry pipeline after) : source.EntryStep pipeline after :=
  .kept h.entry

theorem EntryStep.trans_sameEntry (h : source.EntryStep pipeline between) (h' : SameEntry source.entry between after) :
    source.EntryStep pipeline after := by
  cases h with
  | kept hafter => exact .kept (h'.entry.trans hafter)
  | dropped hentry hexpired hafter => exact .dropped hentry hexpired (h'.entry.trans hafter)
  | loaded hlive hsaid hexpiry hafter => exact .loaded hlive hsaid hexpiry (h'.entry.trans hafter)

/-- A step from a pipeline with the same entry, whose source says nothing else, is a step from the pipeline itself. -/
theorem EntryStep.of_between (h : SameEntry source.entry pipeline between)
    (hsaid : ∀ value, source.Says between value → source.Says pipeline value) (h' : source.EntryStep between after) :
    source.EntryStep pipeline after := by
  cases h' with
  | kept hafter => exact .kept (hafter.trans h.entry)
  | dropped hentry hexpired hafter =>
    rw [h.entry] at hentry
    rw [h.time] at hexpired
    exact .dropped hentry hexpired hafter
  | loaded hlive hfound hexpiry hafter =>
    rw [Cache.live?, h.entry, h.time] at hlive
    rw [h.time, h.environment] at hexpiry
    exact .loaded hlive (hsaid _ hfound) hexpiry hafter

/-- What a source says inside steps of work, it says. -/
theorem Says.of_within {steps : Nat} {value : Cached} (h : source.Says (pipeline.within steps) value) :
    source.Says pipeline value := by
  obtain ⟨inner, hfresh⟩ := h
  refine ⟨steps + inner, ?_⟩
  have hwithin : (pipeline.within steps).within inner = pipeline.within (steps + inner) := by
    unfold Pipeline.within
    rw [Nat.sub_sub]
  rw [← hwithin]
  exact hfresh

section

open FrontPage.Action

variable {α β : Type} {action : Action α} {next : α → Action β}

/-- An action inside steps of work does what it does. -/
theorem EntryStep.inside {steps : Nat}
    (h : source.EntryStep (pipeline.within steps) (action.run (pipeline.within steps)).2) :
    source.EntryStep pipeline ((inside steps action).run pipeline).2 := by
  have hwithin : SameEntry source.entry pipeline (pipeline.within steps) := ⟨rfl, rfl, rfl⟩
  have hroom (left : Pipeline) (room : Nat) :
      SameEntry source.entry left { left with store := { left.store with room } } := ⟨rfl, rfl, rfl⟩
  rw [run_inside]
  exact .of_between hwithin (fun _ => Says.of_within) (h.trans_sameEntry (hroom _ _))

/-- The first part of an action makes the step, and the rest keeps the entry. -/
theorem EntryStep.bind_keeps (h : source.EntryStep pipeline (action.run pipeline).2)
    (hnext : ∀ a, Keeps source.entry (action.run pipeline).2 (next a)) :
    source.EntryStep pipeline ((action >>= next).run pipeline).2 := by
  rw [run_bind]
  cases (action.run pipeline).1 with
  | ok a => exact h.trans_sameEntry (hnext a).sameEntry
  | error cause => exact h

/-- The first part of an action changes nothing for the source, and the rest makes the step. -/
theorem EntryStep.keeps_bind (h : SameEntry source.entry pipeline (action.run pipeline).2)
    (hsaid : ∀ value, source.Says (action.run pipeline).2 value → source.Says pipeline value)
    (hnext : ∀ a, source.EntryStep (action.run pipeline).2 ((next a).run (action.run pipeline).2).2) :
    source.EntryStep pipeline ((action >>= next).run pipeline).2 := by
  rw [run_bind]
  cases (action.run pipeline).1 with
  | ok a => exact .of_between h hsaid (hnext a)
  | error cause => exact .of_sameEntry h

end

/-! ## What events do to an entry -/

theorem Typed.of_live (h : source.Typed pipeline) (value : Cached)
    (hlive : pipeline.cache.live? source.entry pipeline.time = some value) : source.IsOf value := by
  obtain ⟨expiry, hentry, -⟩ := Cache.live?_eq_some_iff.mp hlive
  exact h _ hentry

/-- Asking for what is not live leaves no entry, and had none that is live. -/
theorem entryStep_get (metrics : Metrics) : source.EntryStep pipeline
    { pipeline with cache := (pipeline.cache.get source.entry pipeline.time).2, metrics } := by
  rcases Cache.entry?_get_cases pipeline.cache source.entry source.entry pipeline.time with
    hkept | ⟨hnone, entry, hentry, hexpired⟩
  · exact .kept hkept
  · exact .dropped hentry hexpired hnone

/-- A read makes a step. -/
theorem entryStep_read (h : source.Typed pipeline) : source.EntryStep pipeline (source.read.run pipeline).2 := by
  obtain ⟨result, cache, metrics, hrun, houtcome⟩ := source.run_read pipeline h.of_live
  rw [hrun]
  cases houtcome with
  | hit hlive => exact entryStep_get metrics
  | loaded hlive hfresh hexpiry =>
    refine .loaded hlive ⟨0, hfresh⟩ hexpiry ?_
    exact (Cache.entry?_put _ _ _ _ _).trans (if_pos (beq_self_eq_true _))
  | refused hlive hfresh hexpiry => exact entryStep_get metrics
  | substituted hlive hfresh => exact entryStep_get metrics
  | failed hlive hfresh => exact entryStep_get metrics

theorem entryStep_activeLayouts (h : Source.layouts.Typed pipeline) (source : Source) :
    source.EntryStep pipeline (activeLayouts.run pipeline).2 := by
  cases source with
  | layouts =>
    have hread := entryStep_read h
    rw [read, run_map_snd] at hread
    exact hread
  | items => exact .of_sameEntry (keeps_activeLayouts (by decide)).sameEntry

theorem entryStep_classifiedItems (h : Source.items.Typed pipeline) (source : Source) :
    source.EntryStep pipeline (classifiedItems.run pipeline).2 := by
  cases source with
  | layouts => exact .of_sameEntry (keeps_classifiedItems (by decide)).sameEntry
  | items =>
    have hread := entryStep_read h
    rw [read, run_map_snd] at hread
    exact hread

theorem entry_ne_tableEntry (source : Source) : source.entry ≠ tableEntry := by
  cases source <;> decide

/-- A classification makes a step, by reading the layouts if it goes by them. -/
theorem entryStep_classifyArticle (h : Source.layouts.Typed pipeline) (source : Source) (item : Value)
    (operation : String) : source.EntryStep pipeline ((classifyArticle item operation).run pipeline).2 := by
  have hitem : ((articleOf item).run pipeline).2 = pipeline := by
    unfold articleOf
    split
    · rfl
    · split <;> rfl
  have hprepare : source.EntryStep pipeline ((Action.attempt (Action.inside 2 prepare)).run pipeline).2 := by
    show source.EntryStep pipeline ((Action.inside 2 prepare).run pipeline).2
    have hwithin : Source.layouts.Typed (pipeline.within 2) := h
    exact .inside (.bind_keeps (entryStep_activeLayouts hwithin source) fun _ =>
      Keeps.bind (keeps_ensureTable (entry_ne_tableEntry source)) fun _ => Keeps.pure _)
  have hfinish (operation : Operation) (classified : Classified) (base : Pipeline) :
      Keeps source.entry base (finish operation classified) := keeps_finish operation classified
  refine .keeps_bind (by rw [hitem]; exact .refl _ _) (by rw [hitem]; exact fun _ h => h) fun fields => ?_
  rw [hitem]
  split
  · exact .of_sameEntry (.refl _ _)
  · split
    · exact .of_sameEntry (Keeps.sameEntry (Keeps.get_bind fun _ _ => hfinish _ _ _))
    · refine .bind_keeps hprepare fun prepared => ?_
      split
      · exact Keeps.bind (Keeps.record _) fun _ => Keeps.pure _
      · exact Keeps.get_bind fun _ _ => hfinish _ _ _

/-- Making a report makes a step for each source: the layouts are read first, which leaves the articles alone. -/
theorem entryStep_renderReport (h : ∀ source : Source, source.Typed pipeline) (source : Source) :
    source.EntryStep pipeline (renderReport.run pipeline).2 := by
  have hstage (pipeline : Pipeline) (h : ∀ source : Source, source.Typed pipeline) :
      source.EntryStep pipeline (renderStage.run pipeline).2 := by
    cases source with
    | layouts =>
      exact .bind_keeps (entryStep_activeLayouts (h .layouts) .layouts) fun _ =>
        Keeps.bind (keeps_classifiedItems (by decide)) fun _ => Keeps.bind (keeps_renderLayouts _ _) fun _ =>
          Keeps.pure _
    | items =>
      have hsame : SameEntry itemsEntry pipeline (activeLayouts.run pipeline).2 :=
        (keeps_activeLayouts (by decide)).sameEntry
      have hroster : (activeLayouts.run pipeline).2.roster = pipeline.roster := by
        obtain ⟨result, cache, metrics, hrun, -⟩ := Source.layouts.run_read pipeline (h .layouts).of_live
        have hleft := run_map_snd Cached.layouts activeLayouts pipeline
        rw [← hleft]
        exact congrArg (fun left => left.2.roster) hrun
      have hsaid : ∀ value, Source.items.Says (activeLayouts.run pipeline).2 value → Source.items.Says pipeline value := by
        rintro value ⟨steps, hfresh⟩
        refine ⟨steps, ?_⟩
        rw [fresh, Pipeline.within] at hfresh ⊢
        rw [hroster] at hfresh
        exact hfresh
      refine .keeps_bind hsame hsaid fun config => .bind_keeps (entryStep_classifiedItems ?_ .items) fun items =>
        Keeps.bind (keeps_renderLayouts _ _) fun _ => Keeps.pure _
      intro entry hentry
      exact h .items entry (hsame.entry.symm.trans hentry)
  rw [renderReport_eq_stages]
  refine .inside (.bind_keeps (hstage (pipeline.within 1) h) fun _ => ?_)
  exact Keeps.bind (keeps_publishStage _) fun _ => Keeps.pure _

end Source

namespace PipelineEvent

variable {source : Source} {pipeline : Pipeline}

/-- **An event that does not clear a source makes a step on its entry.** -/
theorem entryStep (h : ∀ source : Source, source.Typed pipeline) (event : PipelineEvent)
    (hclears : event.clears source = false) : source.EntryStep pipeline (event.after pipeline) := by
  have hwithin (steps : Nat) : ∀ source : Source, source.Typed (pipeline.within steps) := h
  cases event with
  | store objects => exact .kept rfl
  | roster rows => exact .kept rfl
  | outages found => exact .kept rfl
  | clock time => exact .kept rfl
  | day now => exact .kept rfl
  | classify steps item operation =>
    exact .inside (Source.entryStep_classifyArticle (hwithin steps .layouts) source item operation)
  | read steps asked =>
    refine .inside ?_
    cases asked with
    | layouts =>
      rw [Source.read, run_map_snd]
      exact Source.entryStep_activeLayouts (hwithin steps .layouts) source
    | items =>
      rw [Source.read, run_map_snd]
      exact Source.entryStep_classifiedItems (hwithin steps .items) source
  | render steps => exact .inside (Source.entryStep_renderReport (hwithin steps) source)
  | clearCaches => cases hclears
  | forgetItems =>
    cases source with
    | layouts =>
      exact .kept ((Cache.entry?_invalidate pipeline.cache itemsEntry layoutsEntry).trans (if_neg (by decide)))
    | items => cases hclears

/-- An event that clears a source leaves no entry of it. -/
theorem entry?_of_clears {event : PipelineEvent} (hclears : event.clears source = true) :
    (event.after pipeline).cache.entry? source.entry = none := by
  cases event with
  | clearCaches =>
    refine (Cache.entry?_invalidateAll pipeline.cache pipelineEntries source.entry).trans (if_pos ?_)
    cases source <;> decide
  | forgetItems =>
    cases source with
    | layouts => cases hclears
    | items => exact (Cache.entry?_invalidate pipeline.cache itemsEntry itemsEntry).trans (if_pos (by decide))
  | _ => cases hclears

/-- Nothing changes the settings, and only the clock moves the clock. -/
theorem frame (event : PipelineEvent) (pipeline : Pipeline) :
    (event.after pipeline).environment = pipeline.environment ∧
      (event.after pipeline).time = event.clock?.getD pipeline.time := by
  -- Nothing is ever cached under the empty name, so every action keeps it.
  have hkept {α : Type} {action : Action α} (h : Keeps "" pipeline action) :
      (action.run pipeline).2.environment = pipeline.environment ∧ (action.run pipeline).2.time = pipeline.time :=
    ⟨h.sameEntry.environment, h.sameEntry.time⟩
  cases event with
  | store objects => exact ⟨rfl, rfl⟩
  | roster rows => exact ⟨rfl, rfl⟩
  | outages found => exact ⟨rfl, rfl⟩
  | clock time => exact ⟨rfl, rfl⟩
  | day now => exact ⟨rfl, rfl⟩
  | classify steps item operation =>
    exact hkept (Keeps.inside steps (keeps_classifyArticle (by decide) (by decide) item operation))
  | read steps asked =>
    cases asked with
    | layouts => exact hkept (Keeps.inside steps (Keeps.map (keeps_activeLayouts (by decide)) _))
    | items => exact hkept (Keeps.inside steps (Keeps.map (keeps_classifiedItems (by decide)) _))
  | render steps => exact hkept (Keeps.inside steps (keeps_renderReport (by decide) (by decide)))
  | clearCaches => exact ⟨rfl, rfl⟩
  | forgetItems => exact ⟨rfl, rfl⟩

end PipelineEvent

/-! ## Runs -/

section

variable {start : Pipeline} {events : List PipelineEvent} {source : Source}

theorem Pipeline.run_concat (start : Pipeline) (events : List PipelineEvent) (event : PipelineEvent) :
    start.run (events ++ [event]) = event.after (start.run events) := by
  rw [Pipeline.run, List.foldl_append]
  rfl

/-- The settings are the same all along. -/
theorem Pipeline.environment_run (start : Pipeline) (events : List PipelineEvent) :
    (start.run events).environment = start.environment := by
  induction events using List.reverseRecOn with
  | nil => rfl
  | append_singleton events event ih => rw [run_concat, (event.frame _).1, ih]

/-- At some moment of a run the source said a value, which was then cached until an expiry, and it was not cleared
since. -/
def Source.SaidEarlier (source : Source) (start : Pipeline) (events : List PipelineEvent) (value : Cached)
    (expiry : Number) : Prop :=
  ∃ before behind, events = before ++ behind ∧ source.Says (start.run before) value ∧
    (start.run before).time.later (source.ttl start.environment) = .ok expiry ∧
    ∀ event ∈ behind, event.clears source = false

theorem Source.SaidEarlier.concat {value : Cached} {expiry : Number} (h : source.SaidEarlier start events value expiry)
    {event : PipelineEvent} (hclears : event.clears source = false) :
    source.SaidEarlier start (events ++ [event]) value expiry := by
  obtain ⟨before, behind, rfl, hsaid, hexpiry, hbehind⟩ := h
  refine ⟨before, behind ++ [event], by simp, hsaid, hexpiry, fun other ho => ?_⟩
  rcases List.mem_append.mp ho with ho | ho
  · exact hbehind other ho
  · rw [List.mem_singleton.mp ho]
    exact hclears

theorem Source.SaidEarlier.isOf {value : Cached} {expiry : Number} (h : source.SaidEarlier start events value expiry) :
    source.IsOf value := by
  obtain ⟨before, behind, -, ⟨steps, hfresh⟩, -⟩ := h
  exact Source.isOf_of_fresh hfresh

/-- **What is cached of a source was said by it earlier**, in a run that begins with an empty cache. -/
theorem saidEarlier_of_entry (hempty : start.cache.entries = []) (events : List PipelineEvent) :
    ∀ (source : Source) (entry : CacheEntry Cached), (start.run events).cache.entry? source.entry = some entry →
      source.SaidEarlier start events entry.value entry.expiry := by
  induction events using List.reverseRecOn with
  | nil =>
    intro source entry hentry
    have hnone : start.cache.entry? source.entry = none := by
      rw [Cache.entry?, hempty]
      rfl
    rw [show (start.run []).cache.entry? source.entry = none from hnone] at hentry
    cases hentry
  | append_singleton events event ih =>
    intro source entry hentry
    have htyped : ∀ source : Source, source.Typed (start.run events) := fun source entry hentry =>
      (ih source entry hentry).isOf
    rw [Pipeline.run_concat] at hentry
    cases hclears : event.clears source with
    | true =>
      rw [PipelineEvent.entry?_of_clears hclears] at hentry
      cases hentry
    | false =>
      cases event.entryStep htyped hclears with
      | kept hafter => exact (ih source entry (hafter.symm.trans hentry)).concat hclears
      | dropped _ _ hafter =>
        rw [hafter] at hentry
        cases hentry
      | loaded hlive hsaid hexpiry hafter =>
        rw [hafter] at hentry
        cases hentry
        rw [Pipeline.environment_run] at hexpiry
        refine ⟨events, [event], rfl, hsaid, hexpiry, fun other ho => ?_⟩
        rw [List.mem_singleton.mp ho]
        exact hclears

end

/-! ## Moments -/

section

variable {start : Pipeline} {source : Source}

/-- What is cached of a source is of its kind all along. -/
theorem Source.typed_run (hempty : start.cache.entries = []) (events : List PipelineEvent) (source : Source) :
    source.Typed (start.run events) :=
  fun entry hentry => (saidEarlier_of_entry hempty events source entry hentry).isOf

theorem Pipeline.time_run_mem (start : Pipeline) (events : List PipelineEvent) :
    (start.run events).time ∈ start.time :: events.filterMap PipelineEvent.clock? := by
  induction events using List.reverseRecOn with
  | nil => exact List.mem_cons_self
  | append_singleton events event ih =>
    rw [run_concat, (event.frame _).2, List.filterMap_append, ← List.cons_append]
    cases hclock : event.clock? with
    | none => exact List.mem_append_left _ ih
    | some time => exact List.mem_append_right _ (by simp [hclock])

/-- On a clock that does not go back, what has expired at some moment has expired at all later ones. -/
theorem Pipeline.expired_later {events later : List PipelineEvent}
    (hclock : Number.NeverBack (start.time :: (events ++ later).filterMap PipelineEvent.clock?)) {expiry : Number}
    (h : (start.run events).time.less expiry = false) : (start.run (events ++ later)).time.less expiry = false := by
  induction later using List.reverseRecOn with
  | nil =>
    rw [List.append_nil]
    exact h
  | append_singleton later event ih =>
    rw [← List.append_assoc, List.filterMap_append, ← List.cons_append] at hclock
    obtain ⟨hbefore, -, hlast⟩ := List.pairwise_append.mp hclock
    rw [← List.append_assoc, run_concat, (event.frame _).2]
    cases hevent : event.clock? with
    | none => exact ih hbefore
    | some time =>
      have hmem : (start.run events).time ∈ start.time :: (events ++ later).filterMap PipelineEvent.clock? := by
        rw [List.filterMap_append, ← List.cons_append]
        exact List.mem_append_left _ (start.time_run_mem events)
      have hle : (start.run events).time.lessEqual time = true := hlast _ hmem time (by simp [hevent])
      exact Bool.eq_false_iff.mpr fun hless =>
        Bool.eq_false_iff.mp h (Number.less_of_lessEqual_of_less hle hless)

/-- An event loads a source: nothing is live under its name before the event, and something is after it, at the same
time. With a time to live above zero, this is to read what the source says and to cache it. -/
def Source.Loads (source : Source) (pipeline : Pipeline) (event : PipelineEvent) : Prop :=
  pipeline.cache.live? source.entry pipeline.time = none ∧
    ((event.after pipeline).cache.live? source.entry pipeline.time).isSome = true

/-- What an event loads is cached until the time to live has passed. -/
theorem Source.Loads.entry? {pipeline : Pipeline} {event : PipelineEvent} (h : source.Loads pipeline event)
    (htyped : ∀ source : Source, source.Typed pipeline) :
    ∃ value expiry, pipeline.time.later (source.ttl pipeline.environment) = .ok expiry ∧
      (event.after pipeline).cache.entry? source.entry = some ⟨value, expiry⟩ := by
  obtain ⟨hnone, hsome⟩ := h
  have hnothing (hafter : (event.after pipeline).cache.live? source.entry pipeline.time = none) : False := by
    rw [hafter] at hsome
    cases hsome
  cases hclears : event.clears source with
  | true => exact (hnothing (by rw [Cache.live?, PipelineEvent.entry?_of_clears hclears]; rfl)).elim
  | false =>
    cases event.entryStep htyped hclears with
    | kept hafter => exact (hnothing (by rw [Cache.live?, hafter]; exact hnone)).elim
    | dropped _ _ hafter => exact (hnothing (by rw [Cache.live?, hafter]; rfl)).elim
    | loaded _ _ hexpiry hafter => exact ⟨_, _, hexpiry, hafter⟩

/-- An entry that is not cleared is kept, or there is a moment at which it has expired. -/
theorem entry?_kept_or_expired (hempty : start.cache.entries = []) {events : List PipelineEvent} {value : Cached}
    {expiry : Number} (hentry : (start.run events).cache.entry? source.entry = some ⟨value, expiry⟩)
    (later : List PipelineEvent) (hclears : ∀ event ∈ later, event.clears source = false) :
    (start.run (events ++ later)).cache.entry? source.entry = some ⟨value, expiry⟩ ∨
      ∃ between behind, later = between ++ behind ∧ (start.run (events ++ between)).time.less expiry = false := by
  induction later using List.reverseRecOn with
  | nil =>
    rw [List.append_nil]
    exact .inl hentry
  | append_singleton later event ih =>
    rcases ih fun other ho => hclears other (List.mem_append_left _ ho) with hkept | ⟨between, behind, rfl, hexpired⟩
    · rw [← List.append_assoc, Pipeline.run_concat]
      cases event.entryStep (Source.typed_run hempty _) (hclears event (by simp)) with
      | kept hafter => exact .inl (hafter.trans hkept)
      | dropped hdropped hexpired _ =>
        rw [hkept] at hdropped
        cases hdropped
        exact .inr ⟨later, [event], rfl, hexpired⟩
      | loaded hlive _ _ _ =>
        refine .inr ⟨later, [event], rfl, Bool.eq_false_iff.mpr fun hless => ?_⟩
        rw [Cache.live?_eq_some_iff.mpr ⟨expiry, hkept, hless⟩] at hlive
        cases hlive
    · exact .inr ⟨between, behind ++ [event], by simp, hexpired⟩

/-- **Two loads with no clearing in between are at least one time to live apart.** -/
theorem Source.Loads.expired (hempty : start.cache.entries = []) {before between : List PipelineEvent}
    {first second : PipelineEvent}
    (hclock : Number.NeverBack (start.time :: (before ++ first :: between).filterMap PipelineEvent.clock?))
    (hfirst : source.Loads (start.run before) first)
    (hsecond : source.Loads (start.run (before ++ first :: between)) second)
    (hclears : ∀ event ∈ between, event.clears source = false) :
    ∃ expiry, (start.run before).time.later (source.ttl start.environment) = .ok expiry ∧
      (start.run (before ++ first :: between)).time.less expiry = false := by
  obtain ⟨value, expiry, hexpiry, hentry⟩ := hfirst.entry? (Source.typed_run hempty before)
  rw [Pipeline.environment_run] at hexpiry
  refine ⟨expiry, hexpiry, ?_⟩
  rw [← Pipeline.run_concat] at hentry
  have hsplit : before ++ first :: between = before ++ [first] ++ between := by simp
  rw [hsplit] at hclock hsecond ⊢
  rcases entry?_kept_or_expired hempty hentry between hclears with hkept | ⟨earlier, behind, rfl, hexpired⟩
  · refine Bool.eq_false_iff.mpr fun hless => ?_
    have hlive := hsecond.1
    rw [Cache.live?_eq_some_iff.mpr ⟨expiry, hkept, hless⟩] at hlive
    cases hlive
  · rw [← List.append_assoc] at hclock ⊢
    exact Pipeline.expired_later hclock hexpired

end

/-! ## Reads -/

/-- A read inside steps of work ends as one of the pipeline that is seen there. -/
theorem Source.run_inside_read (source : Source) {pipeline : Pipeline} (h : source.Typed pipeline) (steps : Nat) :
    ∃ result cache metrics, (Action.inside steps source.read).run pipeline = (result, { pipeline with cache, metrics }) ∧
      source.Outcome (pipeline.within steps) result cache := by
  have hwithin : source.Typed (pipeline.within steps) := h
  obtain ⟨result, cache, metrics, hrun, houtcome⟩ := source.run_read (pipeline.within steps) hwithin.of_live
  refine ⟨result, cache, metrics, ?_, houtcome⟩
  rw [run_inside, hrun]
  rfl

/-- **What is read is not older than its time to live.** In a run that begins with an empty cache, on a clock that never
goes back, a read gives what the source says at that moment, or what stands in for it if nothing is live, or what the
source said at an earlier moment whose time to live has not passed and since which the source was not cleared. What is
live is given. If nothing is live, what stands in and a failure are not cached, and what the source says is. Two loads
with no clearing in between are at least one time to live apart. -/
theorem Source.staleness_bounded (source : Source) {start : Pipeline} (hempty : start.cache.entries = [])
    {events : List PipelineEvent}
    (hclock : Number.NeverBack (start.time :: events.filterMap PipelineEvent.clock?)) :
    let pipeline := start.run events
    (∀ steps value after, Gives (Action.inside steps source.read) pipeline value after →
      source.fresh (pipeline.within steps) = .value value ∨
      (pipeline.cache.live? source.entry pipeline.time = none ∧
        source.fresh (pipeline.within steps) = .substitute value ∧ after.cache.entry? source.entry = none) ∨
      ∃ expiry, source.SaidEarlier start events value expiry ∧ pipeline.time.less expiry = true) ∧
    (∀ steps value, pipeline.cache.live? source.entry pipeline.time = some value →
      ∃ after, Gives (Action.inside steps source.read) pipeline value after) ∧
    (∀ steps, pipeline.cache.live? source.entry pipeline.time = none →
      (∀ value, source.fresh (pipeline.within steps) = .substitute value →
        ∃ after, Gives (Action.inside steps source.read) pipeline value after ∧
          after.cache.entry? source.entry = none) ∧
      (∀ cause, source.fresh (pipeline.within steps) = .failure cause →
        ∃ after, Fails (Action.inside steps source.read) pipeline cause after ∧
          after.cache.entry? source.entry = none) ∧
      (∀ value expiry, source.fresh (pipeline.within steps) = .value value →
        pipeline.time.later (source.ttl start.environment) = .ok expiry →
          ∃ after, Gives (Action.inside steps source.read) pipeline value after ∧
            after.cache.entry? source.entry = some ⟨value, expiry⟩)) ∧
    ∀ before first between second behind, events = before ++ first :: between ++ second :: behind →
      source.Loads (start.run before) first → source.Loads (start.run (before ++ first :: between)) second →
      (∀ event ∈ between, event.clears source = false) →
        ∃ expiry, (start.run before).time.later (source.ttl start.environment) = .ok expiry ∧
          (start.run (before ++ first :: between)).time.less expiry = false := by
  intro pipeline
  have htyped : source.Typed pipeline := Source.typed_run hempty events source
  refine ⟨fun steps value after hgives => ?_, fun steps value hlive => ?_, fun steps hnone => ?_, ?_⟩
  · obtain ⟨result, cache, metrics, hrun, houtcome⟩ := source.run_inside_read htyped steps
    rw [Gives, hrun] at hgives
    cases hgives
    cases houtcome with
    | hit hlive =>
      obtain ⟨expiry, hentry, hless⟩ := Cache.live?_eq_some_iff.mp hlive
      exact .inr (.inr ⟨expiry, saidEarlier_of_entry hempty events source ⟨value, expiry⟩ hentry, hless⟩)
    | loaded hlive hfresh hexpiry => exact .inl hfresh
    | substituted hlive hfresh => exact .inr (.inl ⟨hlive, hfresh, Cache.entry?_get_of_not_live hlive⟩)
  · obtain ⟨result, cache, metrics, hrun, houtcome⟩ := source.run_inside_read htyped steps
    obtain rfl := houtcome.of_live hlive
    exact ⟨_, hrun⟩
  · obtain ⟨result, cache, metrics, hrun, houtcome⟩ := source.run_inside_read htyped steps
    refine ⟨fun value hfresh => ?_, fun cause hfresh => ?_, fun value expiry hfresh hexpiry => ?_⟩
    · obtain ⟨rfl, hentry⟩ := houtcome.of_substitute hnone hfresh
      exact ⟨_, hrun, hentry⟩
    · obtain ⟨rfl, hentry⟩ := houtcome.of_failure hnone hfresh
      exact ⟨_, hrun, hentry⟩
    · have henvironment : pipeline.environment = start.environment := start.environment_run events
      rw [← henvironment] at hexpiry
      obtain ⟨rfl, hentry⟩ := houtcome.of_value hnone hfresh hexpiry
      exact ⟨_, hrun, hentry⟩
  · rintro before first between second behind rfl hfirst hsecond hbetween
    refine Loads.expired hempty ?_ hfirst hsecond hbetween
    rw [List.filterMap_append, ← List.cons_append] at hclock
    exact (List.pairwise_append.mp hclock).1

/-- The articles are read again as soon as their time to live has passed: two loads, sixty seconds apart. -/
theorem Source.staleness_bounded_sixtySeconds :
    let start := Pipeline.ofDocument "[]"
    let ask := PipelineEvent.read 0 .items
    let wait := PipelineEvent.clock (.int 1060)
    Source.items.Loads start ask ∧ Source.items.Loads (start.run [ask, wait]) ask ∧
      ∃ expiry, start.time.later (Source.items.ttl start.environment) = .ok expiry ∧
        (start.run [ask, wait]).time.less expiry = false := by
  intro start ask wait
  have hclock : Number.NeverBack (start.time :: [ask, wait, ask].filterMap PipelineEvent.clock?) := by
    unfold Number.NeverBack
    decide +kernel
  have hfirst : Source.items.Loads start ask := by
    unfold Loads
    decide +kernel
  have hsecond : Source.items.Loads (start.run [ask, wait]) ask := by
    unfold Loads
    decide +kernel
  have hclears : ∀ event ∈ [wait], event.clears .items = false := by
    intro event hm
    rw [List.mem_singleton.mp hm]
    rfl
  obtain ⟨-, -, -, happart⟩ := Source.items.staleness_bounded rfl hclock
  exact ⟨hfirst, hsecond, happart [] ask [wait] ask [] rfl hfirst hsecond hclears⟩

end FrontPage
