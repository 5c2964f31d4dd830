import FrontPage.Proofs.Pipeline.Running

/-!
# What the cache holds

Whatever is done with the cache, it holds nothing that was not put into it: asking for an entry (`Cache.mem_get`) and
removing entries (`Cache.mem_invalidateAll`) only take entries out, and putting one in (`Cache.mem_put`) adds one under
its name. What is found under a name is the value of an entry of that name (`Cache.mem_of_get`).
-/

namespace FrontPage

/-! ## Times -/

theorem Number.combine?_float {onInts : Int → Int → Int} {onFloats : Binary64 → Binary64 → Binary64} {x y : Binary64}
    {b : Number} (h : b.toBinary64? = some y) :
    combine? onInts onFloats (.float x) b = some (.float (onFloats x y)) := by
  rw [combine?, h]
  · rfl
  · exact fun _ _ hint => by cases hint

theorem Number.later_of_add? {time duration sum : Number} (h : time.add? duration = some sum) :
    time.later (.number duration) = .ok sum := by
  simp only [later, Value.asNumber?, h]

/-- A whole number that is not too large can be added to any time. -/
theorem Number.exists_later (time : Number) {duration : Number} {n : Int} (hint : duration = .int n)
    (hfits : duration.toBinary64?.isSome = true) : ∃ expiry, time.later (.number duration) = .ok expiry := by
  obtain ⟨y, hy⟩ := Option.isSome_iff_exists.mp hfits
  cases time with
  | int m =>
    rw [hint]
    exact ⟨.int (m + n), rfl⟩
  | float x => exact ⟨.float (x.add y), later_of_add? (combine?_float hy)⟩

/-! ## Entries -/

namespace Cache

variable {ν α : Type} [BEq ν] {cache : Cache ν α} {name : ν} {now : Number} {value : α} {e : ν × CacheEntry α}

theorem mem_get (h : e ∈ (cache.get name now).2.entries) : e ∈ cache.entries := by
  rw [get] at h
  split at h
  · exact h
  · exact (List.mem_filter.mp h).1

/-- What is found under a name is the value of an entry of that name. -/
theorem mem_of_get [LawfulBEq ν] (h : (cache.get name now).1 = some value) :
    ∃ entry, (name, entry) ∈ cache.entries ∧ entry.value = value := by
  rw [get] at h
  split at h
  · next found hlive =>
    cases h
    obtain ⟨entry, hentry, hvalue⟩ := Option.bind_eq_some_iff.mp hlive
    obtain ⟨before, behind, hsplit, -⟩ := List.lookup_eq_some_iff.mp hentry
    split at hvalue
    · exact ⟨entry, by simp [hsplit], Option.some.inj hvalue⟩
    · cases hvalue
  · cases h

theorem get_of_notMem [LawfulBEq ν] (h : ∀ e ∈ cache.entries, e.1 ≠ name) : (cache.get name now).1 = none := by
  cases hfound : (cache.get name now).1 with
  | none => rfl
  | some value =>
    obtain ⟨entry, hm, -⟩ := mem_of_get hfound
    exact absurd rfl (h _ hm)

/-- An entry that is there after one was put in was there before, or is the new one. -/
theorem mem_put [LawfulBEq ν] {expiry : Number} (h : e ∈ (cache.put name value expiry).entries) :
    e ∈ cache.entries ∨ e = (name, ⟨value, expiry⟩) := by
  obtain ⟨entries, hits, misses, sets, deletes⟩ := cache
  rw [put] at h
  dsimp only at h ⊢
  clear hits misses sets deletes
  induction entries with
  | nil => exact .inr (List.mem_singleton.mp h)
  | cons first rest ih =>
    obtain ⟨n, old⟩ := first
    rw [putEntry] at h
    split at h
    · next hn =>
      rcases List.mem_cons.mp h with rfl | h
      · exact .inr (by rw [eq_of_beq hn])
      · exact .inl (List.mem_cons_of_mem _ h)
    · rcases List.mem_cons.mp h with rfl | h
      · exact .inl List.mem_cons_self
      · exact (ih h).imp_left (List.mem_cons_of_mem _)

theorem mem_invalidate [LawfulBEq ν] (h : e ∈ (cache.invalidate name).2.entries) : e ∈ cache.entries ∧ e.1 ≠ name := by
  rw [invalidate] at h
  split at h
  · obtain ⟨hm, hne⟩ := List.mem_filter.mp h
    exact ⟨hm, by simpa using hne⟩
  · next hnone =>
    have hlookup := List.lookup_eq_none_iff.mp (Option.not_isSome_iff_eq_none.mp hnone)
    exact ⟨h, fun he => bne_iff_ne.mp (hlookup e h) he.symm⟩

/-- After the entries of some names were removed there is none of these names, and no other entry that was not there
before. -/
theorem mem_invalidateAll [LawfulBEq ν] {names : List ν} (h : e ∈ (cache.invalidateAll names).2.entries) :
    e ∈ cache.entries ∧ e.1 ∉ names := by
  induction names generalizing cache with
  | nil => exact ⟨h, List.not_mem_nil⟩
  | cons name rest ih =>
    obtain ⟨hm, hrest⟩ := ih h
    obtain ⟨hm, hne⟩ := mem_invalidate hm
    exact ⟨hm, fun hin => (List.mem_cons.mp hin).elim hne hrest⟩

end Cache

/-! ## Actions -/

namespace Gives

variable {pipeline : Pipeline}

/-- Asking for an entry gives what the cache gives; the request is counted. -/
theorem cached? (name : String) (pipeline : Pipeline) :
    ∃ metrics, Gives (Action.cached? name) pipeline (pipeline.cache.get name pipeline.time).1
      { pipeline with cache := (pipeline.cache.get name pipeline.time).2, metrics } :=
  ⟨_, (get pipeline).bind ((set pipeline _).bind ((record _ _).bind (pure _ _)))⟩

theorem cacheAs (name : String) (value : Cached) {ttl : Value} {expiry : Number}
    (h : pipeline.time.later ttl = .ok expiry) :
    Gives (Action.cacheAs name value ttl) pipeline ⟨⟩
      { pipeline with cache := pipeline.cache.put name value expiry } := by
  have hset : pipeline.cache.set name value ttl pipeline.time = .ok (pipeline.cache.put name value expiry) := by
    rw [Cache.set, h]
    rfl
  refine (get pipeline).bind ?_
  rw [hset]
  exact (ofExcept _ pipeline).bind (set pipeline _)

theorem fails_cacheAs (name : String) (value : Cached) {ttl : Value} {cause : DurationError}
    (h : pipeline.time.later ttl = .error cause) :
    Fails (Action.cacheAs name value ttl) pipeline (.duration cause) pipeline := by
  have hset : pipeline.cache.set name value ttl pipeline.time = .error cause := by
    rw [Cache.set, h]
    rfl
  refine Fails.bind (get pipeline) ?_
  rw [hset]
  exact Fails.bind_first (Fails.ofExcept _ _ pipeline) _

/-- Clearing the caches leaves the cache without the entries of the pipeline. -/
theorem clearCaches (pipeline : Pipeline) :
    Gives Action.clearCaches pipeline (pipeline.cache.invalidateAll pipelineEntries).1
      { pipeline with cache := (pipeline.cache.invalidateAll pipelineEntries).2 } :=
  (get pipeline).bind ((set pipeline _).bind (pure _ _))

end Gives

end FrontPage
