import FrontPage.Pipeline.State

/-!
# Running actions

`Gives` says that an action on a pipeline gives a result and leaves a pipeline, and `Fails` that it fails and leaves
one. There is one lemma for each way of making an action, so that a run of an action is put together from the runs of its
parts.
-/

namespace FrontPage

variable {α β : Type}

/-- The action gives a result on a pipeline, and leaves another pipeline. -/
def Gives (action : Action α) (pipeline : Pipeline) (a : α) (after : Pipeline) : Prop :=
  action.run pipeline = (.ok a, after)

/-- The action fails on a pipeline for a cause, and leaves another pipeline. -/
def Fails (action : Action α) (pipeline : Pipeline) (cause : Failure) (after : Pipeline) : Prop :=
  action.run pipeline = (.error cause, after)

/-- An action gives one result on a pipeline, and leaves one other pipeline. -/
theorem Gives.unique {action : Action α} {pipeline after other : Pipeline} {a b : α}
    (h : Gives action pipeline a after) (h' : Gives action pipeline b other) : a = b ∧ after = other := by
  rw [Gives, h] at h'
  cases h'
  exact ⟨rfl, rfl⟩

/-- An action that fails gives nothing. -/
theorem Fails.not_gives {action : Action α} {pipeline after other : Pipeline} {cause : Failure} {a : α}
    (h : Fails action pipeline cause after) : ¬Gives action pipeline a other := by
  intro h'
  rw [Gives, h] at h'
  cases h'

/-- An action runs, and then the next one with its result. -/
theorem run_bind (action : Action α) (next : α → Action β) (pipeline : Pipeline) :
    (action >>= next).run pipeline = ExceptT.bindCont next (action.run pipeline).1 (action.run pipeline).2 := rfl

/-- Changing the result of an action does not change what it leaves. -/
theorem run_map_snd (f : α → β) (action : Action α) (pipeline : Pipeline) :
    ((f <$> action).run pipeline).2 = (action.run pipeline).2 := by
  rw [ExceptT.run_map]
  rfl

namespace Gives

variable {action : Action α} {next : α → Action β} {pipeline between after : Pipeline} {a : α} {b : β}

theorem pure (a : α) (pipeline : Pipeline) : Gives (Pure.pure a : Action α) pipeline a pipeline := rfl

theorem bind (h : Gives action pipeline a between) (hnext : Gives (next a) between b after) :
    Gives (action >>= next) pipeline b after := by
  rw [Gives, run_bind, h]
  exact hnext

/-- What an action of two parts gives is given by the second part, after the first gave something. -/
theorem of_bind (h : Gives (action >>= next) pipeline b after) :
    ∃ a between, Gives action pipeline a between ∧ Gives (next a) between b after := by
  rw [Gives, run_bind] at h
  cases hfirst : (action.run pipeline).1 with
  | error cause =>
    rw [hfirst] at h
    cases h
  | ok a =>
    rw [hfirst] at h
    exact ⟨a, (action.run pipeline).2, Prod.ext hfirst rfl, h⟩

/-- An action whose first part gives something leaves what the rest of it leaves. -/
theorem exists_bind (h : Gives action pipeline a between) (hnext : ∃ after, Gives (next a) between b after) :
    ∃ after, Gives (action >>= next) pipeline b after :=
  hnext.imp fun _ hnext => h.bind hnext

theorem map (h : Gives action pipeline a after) (f : α → β) : Gives (f <$> action) pipeline (f a) after := by
  have hrun : (f <$> action).run pipeline = ((action.run pipeline).1.map f, (action.run pipeline).2) := by
    rw [ExceptT.run_map]
    rfl
  rw [Gives, hrun, h]
  rfl

/-- An action whose result was changed gave what it was changed from. -/
theorem of_map {f : α → β} (hf : ∀ a a', f a = f a' → a = a') (h : Gives (f <$> action) pipeline (f a) after) :
    Gives action pipeline a after := by
  have hrun : (f <$> action).run pipeline = ((action.run pipeline).1.map f, (action.run pipeline).2) := by
    rw [ExceptT.run_map]
    rfl
  rw [Gives, hrun] at h
  obtain ⟨hresult, hafter⟩ := Prod.mk.inj h
  cases hfirst : (action.run pipeline).1 with
  | error cause =>
    rw [hfirst] at hresult
    cases hresult
  | ok found =>
    rw [hfirst] at hresult
    cases hf found a (Except.ok.inj hresult)
    exact Prod.ext hfirst hafter

theorem get (pipeline : Pipeline) : Gives (MonadState.get : Action Pipeline) pipeline pipeline pipeline := rfl

theorem set (pipeline after : Pipeline) : Gives (MonadStateOf.set after : Action PUnit) pipeline ⟨⟩ after := rfl

theorem modify (f : Pipeline → Pipeline) (pipeline : Pipeline) :
    Gives (modify f : Action PUnit) pipeline ⟨⟩ (f pipeline) := rfl

theorem attempt (h : Gives action pipeline a after) : Gives (Action.attempt action) pipeline (.ok a) after := by
  have hrun : (Action.attempt action).run pipeline = (.ok (action.run pipeline).1, (action.run pipeline).2) := rfl
  rw [Gives, hrun, h]

/-- An action that is only attempted gives something in any case. -/
theorem attempt_run (action : Action α) (pipeline : Pipeline) :
    Gives (Action.attempt action) pipeline (action.run pipeline).1 (action.run pipeline).2 := rfl

theorem withRoom {room : Nat} (h : Gives action { pipeline with store := { pipeline.store with room } } a after) :
    Gives (Action.withRoom room action) pipeline a
      { after with store := { after.store with room := pipeline.store.room } } := by
  have hrun : (Action.withRoom room action).run pipeline =
      ((action.run { pipeline with store := { pipeline.store with room } }).1,
        { (action.run { pipeline with store := { pipeline.store with room } }).2 with
          store := { (action.run { pipeline with store := { pipeline.store with room } }).2.store with
            room := pipeline.store.room } }) := rfl
  rw [Gives, hrun, h]

theorem ofExcept {ε : Type} {cause : ε → Failure} (a : α) (pipeline : Pipeline) :
    Gives (Action.ofExcept cause (.ok a)) pipeline a pipeline := rfl

theorem record (counters : List Counter) (pipeline : Pipeline) :
    Gives (Action.record counters) pipeline ⟨⟩ { pipeline with metrics := pipeline.metrics.recordAll counters } := rfl

theorem ask {query : Query} {statement : Roster → Except StatementError α} (h : statement pipeline.roster = .ok a) :
    Gives (Action.ask query statement) pipeline a
      { pipeline with metrics := pipeline.metrics.recordAll (query.trace (.ok a)) } := by
  refine (get pipeline).bind ?_
  dsimp only
  rw [h]
  exact (record _ _).bind (ofExcept a _)

theorem inside {steps : Nat}
    (h : Gives action { pipeline with store := { pipeline.store with room := pipeline.store.room - steps } } a after) :
    Gives (Action.inside steps action) pipeline a
      { after with store := { after.store with room := pipeline.store.room } } :=
  (get pipeline).bind (withRoom h)

/-- What was attempted with success is given. -/
theorem of_attempt (h : Gives (Action.attempt action) pipeline (.ok a) after) : Gives action pipeline a after := by
  have hrun : (Action.attempt action).run pipeline = (.ok (action.run pipeline).1, (action.run pipeline).2) := rfl
  rw [Gives, hrun] at h
  obtain ⟨hresult, hafter⟩ := Prod.mk.inj h
  exact Prod.ext (Except.ok.inj hresult) hafter

/-- What an action gives where there is some room, it gives on the pipeline with that room. -/
theorem of_withRoom {room : Nat} (h : Gives (Action.withRoom room action) pipeline a after) :
    ∃ between, Gives action { pipeline with store := { pipeline.store with room } } a between ∧
      after = { between with store := { between.store with room := pipeline.store.room } } := by
  have hrun : (Action.withRoom room action).run pipeline =
      ((action.run { pipeline with store := { pipeline.store with room } }).1,
        { (action.run { pipeline with store := { pipeline.store with room } }).2 with
          store := { (action.run { pipeline with store := { pipeline.store with room } }).2.store with
            room := pipeline.store.room } }) := rfl
  rw [Gives, hrun] at h
  obtain ⟨hresult, hafter⟩ := Prod.mk.inj h
  exact ⟨_, Prod.ext hresult rfl, hafter.symm⟩

theorem of_inside {steps : Nat} (h : Gives (Action.inside steps action) pipeline a after) :
    ∃ between,
      Gives action { pipeline with store := { pipeline.store with room := pipeline.store.room - steps } } a between ∧
        after = { between with store := { between.store with room := pipeline.store.room } } :=
  of_withRoom h

/-- An action that gives something for every item leaves something when it was done for all items of a list. -/
theorem forM {action : α → Action PUnit} (h : ∀ item pipeline, ∃ after, Gives (action item) pipeline ⟨⟩ after)
    (items : List α) (pipeline : Pipeline) : ∃ after, Gives (items.forM action) pipeline ⟨⟩ after := by
  induction items generalizing pipeline with
  | nil => exact ⟨pipeline, pure _ _⟩
  | cons item rest ih =>
    obtain ⟨between, hfirst⟩ := h item pipeline
    exact hfirst.exists_bind (ih between)

end Gives

namespace Fails

variable {action : Action α} {next : α → Action β} {pipeline between after : Pipeline} {a : α} {cause : Failure}

theorem throw (cause : Failure) (pipeline : Pipeline) :
    Fails (MonadExcept.throw cause : Action α) pipeline cause pipeline := rfl

theorem bind (h : Gives action pipeline a between) (hnext : Fails (next a) between cause after) :
    Fails (action >>= next) pipeline cause after := by
  rw [Fails, run_bind, h]
  exact hnext

theorem bind_first (h : Fails action pipeline cause after) (next : α → Action β) :
    Fails (action >>= next) pipeline cause after := by
  rw [Fails, run_bind, h]
  rfl

theorem map (h : Fails action pipeline cause after) (f : α → β) : Fails (f <$> action) pipeline cause after := by
  have hrun : (f <$> action).run pipeline = ((action.run pipeline).1.map f, (action.run pipeline).2) := by
    rw [ExceptT.run_map]
    rfl
  rw [Fails, hrun, h]
  rfl

theorem attempt (h : Fails action pipeline cause after) :
    Gives (Action.attempt action) pipeline (.error cause) after := by
  have hrun : (Action.attempt action).run pipeline = (.ok (action.run pipeline).1, (action.run pipeline).2) := rfl
  rw [Gives, hrun, h]

theorem inside {steps : Nat}
    (h : Fails action { pipeline with store := { pipeline.store with room := pipeline.store.room - steps } } cause
      after) :
    Fails (Action.inside steps action) pipeline cause
      { after with store := { after.store with room := pipeline.store.room } } := by
  have hrun : (Action.inside steps action).run pipeline =
      ((action.run { pipeline with store := { pipeline.store with room := pipeline.store.room - steps } }).1,
        { (action.run { pipeline with store := { pipeline.store with room := pipeline.store.room - steps } }).2 with
          store := { (action.run
              { pipeline with store := { pipeline.store with room := pipeline.store.room - steps } }).2.store with
            room := pipeline.store.room } }) := rfl
  rw [Fails, hrun, h]

theorem ofExcept {ε : Type} (cause : ε → Failure) (e : ε) (pipeline : Pipeline) :
    Fails (Action.ofExcept cause (.error e) : Action α) pipeline (cause e) pipeline := rfl

theorem ask {query : Query} {statement : Roster → Except StatementError α} {e : StatementError}
    (h : statement pipeline.roster = .error e) :
    Fails (Action.ask query statement) pipeline (.statement e)
      { pipeline with metrics := pipeline.metrics.recordAll (query.trace (.error e : Except StatementError α)) } := by
  refine bind (Gives.get pipeline) ?_
  dsimp only
  rw [h]
  exact bind (Gives.record _ _) (ofExcept .statement e _)

end Fails

end FrontPage
