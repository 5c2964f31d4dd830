import FrontPage.Proofs.Cache.Lookup
import FrontPage.Proofs.Number.Order
import FrontPage.Proofs.Value.Names
import Mathlib.Algebra.GroupWithZero.Nat
import Mathlib.Data.List.Induction

/-!
# Caches and what was asked of them

A cache is run through calls, each at its time (`Cache.run`). What it holds under a name is told by the calls alone: the
last one that stored something there, unless the name was removed since (`LastStored`). An entry that was stored last is
held as long as no call came at or after its expiry (`Reflects`); so on a clock that does not go back, asking for a name
finds what was stored last and has not expired (`Cache.run_answers`).
-/

namespace FrontPage

/-! ## Calls -/

/-- A call on a cache. -/
inductive CacheCall (ν α : Type) where
  | get (name : ν)
  | set (name : ν) (value : α) (ttl : Value)
  | invalidate (name : ν)
  | remaining (name : ν)
  | stats (label : ν → String)
  | clear (names : List ν)

/-- What a call answers. -/
inductive CacheAnswer (ν α : Type) where
  | found (value : Option α)
  | stored
  | refused (cause : DurationError)
  | existed (was : Bool)
  | left (time : Except DurationError (Option Number))
  | counted (counts : Except DurationError Record)
  | cleared (names : List (ν × Bool))

/-- A call and the time on the clock at that moment. -/
structure TimedCall (ν α : Type) where
  time : Number
  call : CacheCall ν α

namespace CacheCall

variable {ν α : Type}

/-- The one name that a call is about, if it is about one. -/
def name? : CacheCall ν α → Option ν
  | .get name => some name
  | .set name _ _ => some name
  | .invalidate name => some name
  | .remaining name => some name
  | .stats _ => none
  | .clear _ => none

/-- The call asks for a value. -/
def isGet : CacheCall ν α → Bool
  | .get _ => true
  | _ => false

end CacheCall

namespace CacheAnswer

variable {ν α : Type}

/-- The answer reports that a value was stored. -/
def isStored : CacheAnswer ν α → Bool
  | .stored => true
  | _ => false

/-- How many removals the answer reports. -/
def removals : CacheAnswer ν α → Nat
  | .existed was => was.toNat
  | .cleared names => names.countP Prod.snd
  | _ => 0

end CacheAnswer

namespace Cache

variable {ν α : Type} [BEq ν]

/-- What a cache answers to a call at a time, and what it is afterwards. -/
def answer (cache : Cache ν α) (time : Number) : CacheCall ν α → CacheAnswer ν α × Cache ν α
  | .get name =>
    let (found, after) := cache.get name time
    (.found found, after)
  | .set name value ttl =>
    match cache.set name value ttl time with
    | .ok after => (.stored, after)
    | .error cause => (.refused cause, cache)
  | .invalidate name =>
    let (existed, after) := cache.invalidate name
    (.existed existed, after)
  | .remaining name => (.left (cache.remaining name time), cache)
  | .stats label => (.counted (cache.stats label time), cache)
  | .clear names =>
    let (cleared, after) := cache.invalidateAll names
    (.cleared cleared, after)

/-- The answers to calls one after the other, and the cache after them. -/
def run (cache : Cache ν α) : List (TimedCall ν α) → List (CacheAnswer ν α) × Cache ν α
  | [] => ([], cache)
  | call :: rest =>
    let first := cache.answer call.time call.call
    let others := first.2.run rest
    (first.1 :: others.1, others.2)

/-- One more call is answered by the cache after the others. -/
theorem run_concat (cache : Cache ν α) (calls : List (TimedCall ν α)) (call : TimedCall ν α) :
    cache.run (calls ++ [call]) =
      ((cache.run calls).1 ++ [((cache.run calls).2.answer call.time call.call).1],
        ((cache.run calls).2.answer call.time call.call).2) := by
  induction calls generalizing cache with
  | nil => rfl
  | cons first rest ih =>
    rw [List.cons_append, run, run, ih]
    rfl

end Cache

/-! ## What was stored last -/

section

variable {ν α : Type} [BEq ν]

/-- The call stores a value under a name until an expiry. -/
def TimedCall.Stores (call : TimedCall ν α) (name : ν) (value : α) (expiry : Number) : Prop :=
  ∃ other ttl, call.call = .set other value ttl ∧ (name == other) = true ∧ call.time.later ttl = .ok expiry

/-- The call removes what there is under a name. -/
def TimedCall.Removes (call : TimedCall ν α) (name : ν) : Prop :=
  (∃ other, call.call = .invalidate other ∧ (name == other) = true) ∨
    ∃ names, call.call = .clear names ∧ names.any (name == ·) = true

/-- The call stores something under a name, or removes what there is. -/
def TimedCall.Changes (call : TimedCall ν α) (name : ν) : Prop :=
  (∃ value expiry, call.Stores name value expiry) ∨ call.Removes name

/-- Of the calls that stored something under a name or removed it, the last one stored a value until an expiry. -/
def LastStored (calls : List (TimedCall ν α)) (name : ν) (value : α) (expiry : Number) : Prop :=
  ∃ before call behind, calls = before ++ call :: behind ∧ call.Stores name value expiry ∧
    ∀ later ∈ behind, ¬later.Changes name

variable {calls : List (TimedCall ν α)} {call : TimedCall ν α} {name : ν} {value : α} {expiry : Number}

theorem LastStored.not_nil : ¬LastStored ([] : List (TimedCall ν α)) name value expiry := by
  rintro ⟨before, call, behind, hsplit, -⟩
  cases before <;> cases hsplit

/-- A call that stores something stores it last. -/
theorem LastStored.of_stores (h : call.Stores name value expiry) : LastStored (calls ++ [call]) name value expiry :=
  ⟨calls, call, [], rfl, h, fun _ hlater => absurd hlater List.not_mem_nil⟩

/-- What was stored last still is after a call that does not change it. -/
theorem LastStored.concat (h : LastStored calls name value expiry) (hcall : ¬call.Changes name) :
    LastStored (calls ++ [call]) name value expiry := by
  obtain ⟨before, stored, behind, rfl, hstores, hbehind⟩ := h
  refine ⟨before, stored, behind ++ [call], by simp, hstores, fun later hlater => ?_⟩
  rcases List.mem_append.mp hlater with hlater | hlater
  · exact hbehind later hlater
  · rw [List.mem_singleton.mp hlater]
    exact hcall

/-- What is stored last is stored by the last call, or was before and is not changed by it. -/
theorem LastStored.cases_concat (h : LastStored (calls ++ [call]) name value expiry) :
    call.Stores name value expiry ∨ (LastStored calls name value expiry ∧ ¬call.Changes name) := by
  obtain ⟨before, stored, behind, hsplit, hstores, hbehind⟩ := h
  rcases List.eq_nil_or_concat behind with rfl | ⟨others, last, rfl⟩
  · obtain ⟨-, hlast⟩ := List.append_inj' hsplit rfl
    cases hlast
    exact .inl hstores
  · rw [List.concat_eq_append, ← List.cons_append, ← List.append_assoc] at hsplit
    obtain ⟨rfl, hlast⟩ := List.append_inj' hsplit rfl
    cases hlast
    refine .inr ⟨⟨before, stored, others, rfl, hstores, fun later hlater => ?_⟩, ?_⟩
    · exact hbehind later (by simp [hlater])
    · exact hbehind call (by simp)

theorem TimedCall.Stores.unique {other : α} {limit : Number}
    (h : call.Stores name value expiry) (h' : call.Stores name other limit) : value = other ∧ expiry = limit := by
  obtain ⟨_, _, hcall, -, hlater⟩ := h
  obtain ⟨_, _, hcall', -, hlater'⟩ := h'
  rw [hcall] at hcall'
  cases hcall'
  rw [hlater] at hlater'
  cases hlater'
  exact ⟨rfl, rfl⟩

theorem TimedCall.Removes.not_stores (h : call.Removes name) : ¬call.Stores name value expiry := by
  rintro ⟨_, _, hcall, -⟩
  rcases h with ⟨_, hcall', -⟩ | ⟨_, hcall', -⟩
  · rw [hcall] at hcall'
    cases hcall'
  · rw [hcall] at hcall'
    cases hcall'

end

/-! ## What a call leaves -/

section

variable {ν α : Type} [BEq ν] [PartialEquivBEq ν]

open TimedCall in
/-- A call stores an entry under a name, or removes it, or leaves what there is; only what is not live it may drop. -/
theorem Cache.entry?_answer (cache : Cache ν α) (call : TimedCall ν α) (name : ν) :
    (∃ value expiry, call.Stores name value expiry ∧
      Cache.entry? (cache.answer call.time call.call).2 name = some ⟨value, expiry⟩) ∨
    (call.Removes name ∧ Cache.entry? (cache.answer call.time call.call).2 name = none) ∨
    (¬call.Changes name ∧
      (Cache.entry? (cache.answer call.time call.call).2 name = cache.entry? name ∨
        Cache.entry? (cache.answer call.time call.call).2 name = none ∧
          ∃ entry, cache.entry? name = some entry ∧ call.time.less entry.expiry = false)) := by
  obtain ⟨time, call⟩ := call
  cases call with
  | get other => exact .inr (.inr ⟨by simp [Changes, Stores, Removes], entry?_get_cases cache other name time⟩)
  | remaining other => exact .inr (.inr ⟨by simp [Changes, Stores, Removes], .inl rfl⟩)
  | stats label => exact .inr (.inr ⟨by simp [Changes, Stores, Removes], .inl rfl⟩)
  | set other value ttl =>
    cases hlater : time.later ttl with
    | error cause =>
      have hanswer : (cache.answer time (.set other value ttl)).2 = cache := by
        rw [answer, set, hlater]
        rfl
      exact .inr (.inr ⟨by simp [Changes, Stores, Removes, hlater], .inl (congrArg (Cache.entry? · name) hanswer)⟩)
    | ok expiry =>
      have hanswer : Cache.entry? (cache.answer time (.set other value ttl)).2 name =
          if name == other then some ⟨value, expiry⟩ else cache.entry? name := by
        rw [answer, set, hlater]
        exact entry?_put cache other name value expiry
      by_cases hname : (name == other) = true
      · exact .inl ⟨value, expiry, ⟨other, ttl, rfl, hname, hlater⟩, hanswer.trans (if_pos hname)⟩
      · exact .inr (.inr ⟨by simp [Changes, Stores, Removes, hname], .inl (hanswer.trans (if_neg hname))⟩)
  | invalidate other =>
    have hanswer := entry?_invalidate cache other name
    by_cases hname : (name == other) = true
    · exact .inr (.inl ⟨.inl ⟨other, rfl, hname⟩, hanswer.trans (if_pos hname)⟩)
    · exact .inr (.inr ⟨by simp [Changes, Stores, Removes, hname], .inl (hanswer.trans (if_neg hname))⟩)
  | clear names =>
    have hanswer := entry?_invalidateAll cache names name
    by_cases hname : names.any (name == ·) = true
    · exact .inr (.inl ⟨.inr ⟨names, rfl, hname⟩, hanswer.trans (if_pos hname)⟩)
    · refine .inr (.inr ⟨?_, .inl (hanswer.trans (if_neg hname))⟩)
      rintro (⟨_, _, _, _, hcall, -⟩ | ⟨_, hcall, -⟩ | ⟨_, hcall, hany⟩)
      · cases hcall
      · cases hcall
      · cases hcall
        exact hname hany

end

section

variable {ν α : Type} [BEq ν] {cache : Cache ν α} {calls : List (TimedCall ν α)}

/-- What a cache holds under names is what was stored last, except for entries that had expired by the time of some
call. -/
structure Reflects (cache : Cache ν α) (calls : List (TimedCall ν α)) : Prop where
  holds : ∀ name value expiry, cache.entry? name = some ⟨value, expiry⟩ → LastStored calls name value expiry
  held : ∀ name value expiry, LastStored calls name value expiry →
    cache.entry? name = some ⟨value, expiry⟩ ∨ ∃ call ∈ calls, call.time.less expiry = false

/-- On a clock that does not go back, what is stored last and has not expired is what the cache holds. -/
theorem Reflects.entry?_iff (h : Reflects cache calls) {now : Number}
    (hclock : ∀ call ∈ calls, call.time.lessEqual now = true) {name : ν} {value : α} {expiry : Number}
    (hless : now.less expiry = true) :
    cache.entry? name = some ⟨value, expiry⟩ ↔ LastStored calls name value expiry := by
  refine ⟨h.holds name value expiry, fun hlast => (h.held name value expiry hlast).resolve_right ?_⟩
  rintro ⟨call, hm, hexpired⟩
  have hlive := Number.less_of_lessEqual_of_less (hclock call hm) hless
  rw [hexpired] at hlive
  cases hlive

variable [PartialEquivBEq ν]

/-- A call goes on with this. -/
theorem Reflects.answer (h : Reflects cache calls) (call : TimedCall ν α) :
    Reflects (cache.answer call.time call.call).2 (calls ++ [call]) where
  holds name value expiry hentry := by
    rcases cache.entry?_answer call name with ⟨_, _, hstores, hafter⟩ | ⟨-, hafter⟩ | ⟨hkept, hafter | ⟨hafter, -⟩⟩
    · rw [hafter] at hentry
      cases hentry
      exact .of_stores hstores
    · rw [hafter] at hentry
      cases hentry
    · rw [hafter] at hentry
      exact (h.holds name value expiry hentry).concat hkept
    · rw [hafter] at hentry
      cases hentry
  held name value expiry hlast := by
    have hearlier : (∃ earlier ∈ calls, earlier.time.less expiry = false) →
        ∃ earlier ∈ calls ++ [call], earlier.time.less expiry = false := by
      rintro ⟨earlier, hm, hexpired⟩
      exact ⟨earlier, List.mem_append_left _ hm, hexpired⟩
    rcases hlast.cases_concat with hstores | ⟨hlast, hkept⟩
    · rcases cache.entry?_answer call name with ⟨_, _, hother, hafter⟩ | ⟨hremoves, -⟩ | ⟨hkept, -⟩
      · obtain ⟨rfl, rfl⟩ := hstores.unique hother
        exact .inl hafter
      · exact absurd hstores hremoves.not_stores
      · exact absurd (.inl ⟨value, expiry, hstores⟩) hkept
    · rcases cache.entry?_answer call name with ⟨value, expiry, hstores, -⟩ | ⟨hremoves, -⟩ | ⟨-, hafter⟩
      · exact absurd (.inl ⟨value, expiry, hstores⟩) hkept
      · exact absurd (.inr hremoves) hkept
      · rcases h.held name value expiry hlast with hentry | hexpired
        · rcases hafter with hafter | ⟨-, entry, hentry', hexpired⟩
          · exact .inl (hafter.trans hentry)
          · rw [hentry] at hentry'
            cases hentry'
            exact .inr ⟨call, by simp, hexpired⟩
        · exact .inr (hearlier hexpired)

/-- It holds after any calls on a cache that was empty at first. -/
theorem reflects_run (calls : List (TimedCall ν α)) : Reflects (({} : Cache ν α).run calls).2 calls := by
  induction calls using List.reverseRecOn with
  | nil =>
    refine ⟨fun name value expiry hentry => ?_, fun name value expiry hlast => absurd hlast LastStored.not_nil⟩
    cases hentry
  | append_singleton calls call ih =>
    rw [Cache.run_concat]
    exact ih.answer call

end

/-! ## Other names -/

section

variable {ν α : Type} [BEq ν] {cache held : Cache ν α} {name : ν}

/-- What is answered about a name depends on what there is under it. -/
theorem Cache.answer_of_entry?_eq (h : cache.entry? name = held.entry? name) {call : CacheCall ν α}
    (hname : call.name? = some name) (time : Number) : (cache.answer time call).1 = (held.answer time call).1 := by
  cases call with
  | get _ =>
    cases hname
    have hlive : cache.live? name time = held.live? name time := by rw [live?, live?, h]
    show CacheAnswer.found (cache.get name time).1 = .found (held.get name time).1
    rw [get_fst, get_fst, hlive]
  | set _ value ttl =>
    rw [answer, answer, set, set]
    cases time.later ttl <;> rfl
  | invalidate _ =>
    cases hname
    have hexisted (cache : Cache ν α) : (cache.invalidate name).1 = (cache.entry? name).isSome := by
      unfold invalidate
      cases (cache.entry? name).isSome <;> rfl
    show CacheAnswer.existed (cache.invalidate name).1 = .existed (held.invalidate name).1
    rw [hexisted, hexisted, h]
  | remaining _ =>
    cases hname
    show CacheAnswer.left (cache.remaining name time) = .left (held.remaining name time)
    rw [remaining, remaining, h]
  | stats _ => cases hname
  | clear _ => cases hname

variable [PartialEquivBEq ν]

/-- A call about another name leaves what there is under a name. -/
theorem Cache.entry?_answer_of_ne {call : TimedCall ν α} {other : ν} (hcall : call.call.name? = some other)
    (hother : (name == other) = false) (cache : Cache ν α) :
    Cache.entry? (cache.answer call.time call.call).2 name = cache.entry? name := by
  obtain ⟨time, call⟩ := call
  cases call with
  | get _ =>
    cases hcall
    exact (entry?_get cache other name time).trans (if_neg fun h => by simp [hother] at h)
  | set _ value ttl =>
    cases hcall
    dsimp only
    rw [answer, set]
    cases time.later ttl with
    | error cause => rfl
    | ok expiry => exact (entry?_put cache other name value expiry).trans (if_neg (by simp [hother]))
  | invalidate _ =>
    cases hcall
    exact (entry?_invalidate cache other name).trans (if_neg (by simp [hother]))
  | remaining _ => rfl
  | stats _ => cases hcall
  | clear _ => cases hcall

/-- So do any calls about other names. -/
theorem Cache.entry?_run_of_ne {calls : List (TimedCall ν α)}
    (h : ∀ call ∈ calls, ∃ other, call.call.name? = some other ∧ (name == other) = false) (cache : Cache ν α) :
    Cache.entry? (cache.run calls).2 name = cache.entry? name := by
  induction calls generalizing cache with
  | nil => rfl
  | cons call rest ih =>
    obtain ⟨other, hcall, hother⟩ := h call List.mem_cons_self
    have hrest := ih (fun later hlater => h later (List.mem_cons_of_mem _ hlater))
    exact (hrest (cache.answer call.time call.call).2).trans (entry?_answer_of_ne hcall hother cache)

end

/-! ## Counts -/

section

variable {ν α : Type} [BEq ν]

theorem countP_cons_toNat {β : Type} (p : β → Bool) (b : β) (rest : List β) :
    (b :: rest).countP p = (p b).toNat + rest.countP p := by
  rw [List.countP_cons, Nat.add_comm]
  cases p b <;> rfl

/-- The counters of a cache have grown by so many questions, settings and deletions. -/
structure Counted (cache after : Cache ν α) (asked sets deletes : Nat) : Prop where
  asked : after.hits + after.misses = cache.hits + cache.misses + asked
  sets : after.sets = cache.sets + sets
  deletes : after.deletes = cache.deletes + deletes

omit [BEq ν] in
theorem Counted.trans {cache between after : Cache ν α} {asked sets deletes asked' sets' deletes' : Nat}
    (h : Counted cache between asked sets deletes) (h' : Counted between after asked' sets' deletes') :
    Counted cache after (asked + asked') (sets + sets') (deletes + deletes') := by
  obtain ⟨hasked, hsets, hdeletes⟩ := h
  obtain ⟨hasked', hsets', hdeletes'⟩ := h'
  exact ⟨by omega, by omega, by omega⟩

theorem Counted.invalidate (cache : Cache ν α) (name : ν) :
    Counted cache (cache.invalidate name).2 0 0 (cache.invalidate name).1.toNat := by
  unfold Cache.invalidate
  split
  · exact ⟨rfl, rfl, rfl⟩
  · exact ⟨rfl, rfl, rfl⟩

theorem Counted.invalidateAll (cache : Cache ν α) (names : List ν) :
    Counted cache (cache.invalidateAll names).2 0 0 ((cache.invalidateAll names).1.countP Prod.snd) := by
  induction names generalizing cache with
  | nil => exact ⟨rfl, rfl, rfl⟩
  | cons name rest ih =>
    have h := (Counted.invalidate cache name).trans (ih (cache.invalidate name).2)
    have hcount : (cache.invalidateAll (name :: rest)).1.countP Prod.snd =
        (cache.invalidate name).1.toNat + ((cache.invalidate name).2.invalidateAll rest).1.countP Prod.snd :=
      countP_cons_toNat Prod.snd _ _
    rw [hcount]
    exact h

theorem Counted.answer (cache : Cache ν α) (time : Number) (call : CacheCall ν α) :
    Counted cache (cache.answer time call).2 call.isGet.toNat (cache.answer time call).1.isStored.toNat
      (cache.answer time call).1.removals := by
  cases call with
  | get name =>
    show Counted cache (cache.get name time).2 1 0 0
    unfold Cache.get
    split
    · exact ⟨by dsimp only; omega, rfl, rfl⟩
    · exact ⟨by dsimp only; omega, rfl, rfl⟩
  | set name value ttl =>
    rw [Cache.answer, Cache.set]
    cases time.later ttl with
    | error cause => exact ⟨rfl, rfl, rfl⟩
    | ok expiry => exact ⟨rfl, rfl, rfl⟩
  | invalidate name => exact .invalidate cache name
  | remaining name => exact ⟨rfl, rfl, rfl⟩
  | stats label => exact ⟨rfl, rfl, rfl⟩
  | clear names => exact .invalidateAll cache names

/-- Over a run they grow by what was called for and answered. -/
theorem Counted.run (cache : Cache ν α) (calls : List (TimedCall ν α)) :
    Counted cache (cache.run calls).2 (calls.countP (·.call.isGet)) ((cache.run calls).1.countP CacheAnswer.isStored)
      ((cache.run calls).1.map CacheAnswer.removals).sum := by
  induction calls generalizing cache with
  | nil => exact ⟨rfl, rfl, rfl⟩
  | cons call rest ih =>
    have h := (Counted.answer cache call.time call.call).trans (ih (cache.answer call.time call.call).2)
    rw [Cache.run, countP_cons_toNat, countP_cons_toNat, List.map_cons, List.sum_cons]
    exact h

omit [BEq ν] in
/-- The counters are reported, if anything is. -/
theorem Cache.stats_counters {cache : Cache ν α} {label : ν → String} {now : Number} {counts : Record}
    (h : cache.stats label now = .ok counts) :
    Record.get? counts "hits" = some (.int cache.hits) ∧ Record.get? counts "misses" = some (.int cache.misses) ∧
      Record.get? counts "sets" = some (.int cache.sets) ∧ Record.get? counts "deletes" = some (.int cache.deletes) := by
  unfold Cache.stats at h
  simp only [bind, Except.bind] at h
  split at h
  · cases h
  · cases h
    exact ⟨rfl, rfl, rfl, rfl⟩

end

/-! ## Answers -/

section

variable {ν α : Type} [BEq ν] {cache : Cache ν α} {calls : List (TimedCall ν α)} {now : Number}

/-- The differences of a time and the expiries that calls have set are exact. -/
def ExactTimes (calls : List (TimedCall ν α)) (now : Number) : Prop :=
  ∀ call ∈ calls, ∀ name value expiry, call.Stores name value expiry →
    ∃ left, expiry.sub? now = some left ∧ Number.IsDifference expiry now left

/-- Where differences are exact, the time left is given for the entries that are live. -/
theorem Reflects.remaining_eq (h : Reflects cache calls) (hexact : ExactTimes calls now) {name : ν}
    {entry : CacheEntry α} (hentry : cache.entry? name = some entry) :
    ∃ left, entry.expiry.sub? now = some left ∧ Number.IsDifference entry.expiry now left ∧
      cache.remaining name now = .ok (if now.less entry.expiry then some left else none) := by
  obtain ⟨before, call, behind, hsplit, hstores, -⟩ := h.holds name entry.value entry.expiry hentry
  have hm : call ∈ calls := by simp [hsplit]
  obtain ⟨left, hsub, hdifference⟩ := hexact call hm name _ _ hstores
  refine ⟨left, hsub, hdifference, ?_⟩
  rw [Cache.remaining, hentry]
  show entry.left now = _
  rw [CacheEntry.left, hsub, ← hdifference.isPositive]

/-- So it is given for what was stored last and has not expired. -/
theorem Reflects.remaining_iff (h : Reflects cache calls) (hexact : ExactTimes calls now)
    (hclock : ∀ call ∈ calls, call.time.lessEqual now = true) (name : ν) :
    (∀ left, cache.remaining name now = .ok (some left) ↔
      ∃ value expiry, LastStored calls name value expiry ∧ now.less expiry = true ∧
        expiry.sub? now = some left ∧ Number.IsDifference expiry now left) ∧
    ((cache.get name now).1 = none → cache.remaining name now = .ok none) := by
  constructor
  · intro left
    constructor
    · intro hleft
      cases hentry : cache.entry? name with
      | none =>
        rw [Cache.remaining, hentry] at hleft
        cases hleft
      | some entry =>
        obtain ⟨found, hsub, hdifference, hremaining⟩ := h.remaining_eq hexact hentry
        rw [hremaining] at hleft
        by_cases hless : now.less entry.expiry = true
        · rw [if_pos hless] at hleft
          cases hleft
          exact ⟨entry.value, entry.expiry, h.holds name _ _ hentry, hless, hsub, hdifference⟩
        · rw [if_neg hless] at hleft
          cases hleft
    · rintro ⟨value, expiry, hlast, hless, hsub, -⟩
      obtain ⟨found, hfound, -, hremaining⟩ := h.remaining_eq hexact ((h.entry?_iff hclock hless).mpr hlast)
      rw [hsub] at hfound
      cases hfound
      rw [hremaining, if_pos hless]
  · intro hnone
    cases hentry : cache.entry? name with
    | none => rw [Cache.remaining, hentry]
    | some entry =>
      obtain ⟨found, -, -, hremaining⟩ := h.remaining_eq hexact hentry
      have hless : ¬now.less entry.expiry = true := by
        intro hless
        have hlive : cache.live? name now = some entry.value := Cache.live?_eq_some_iff.mpr ⟨_, hentry, hless⟩
        rw [Cache.get_fst, hlive] at hnone
        cases hnone
      rw [hremaining, if_neg hless]

variable [PartialEquivBEq ν]

/-- **A cache answers by the history of its calls**, on a clock that never goes back. A name is found, with its value,
if it was stored last and has not expired, and the default is given otherwise. The time left is given for the names that
are found, where differences of times are exact, and it is the expiry less the time. No call about other names changes
the answer to a question about a name. What cannot expire is refused and changes nothing. The counters count the
questions, the values that were stored and the removals that were reported, and that is what is reported of them. -/
theorem Cache.run_answers (calls : List (TimedCall ν α)) (now : Number)
    (hclock : Number.NeverBack (calls.map TimedCall.time ++ [now])) :
    let cache := (({} : Cache ν α).run calls).2
    let answers := (({} : Cache ν α).run calls).1
    (∀ name value, (cache.get name now).1 = some value ↔
      ∃ expiry, LastStored calls name value expiry ∧ now.less expiry = true) ∧
    (∀ name default, (¬∃ value expiry, LastStored calls name value expiry ∧ now.less expiry = true) →
      (cache.get name now).1.getD default = default) ∧
    (ExactTimes calls now → ∀ name,
      (∀ left, cache.remaining name now = .ok (some left) ↔
        ∃ value expiry, LastStored calls name value expiry ∧ now.less expiry = true ∧
          expiry.sub? now = some left ∧ Number.IsDifference expiry now left) ∧
      ((cache.get name now).1 = none → cache.remaining name now = .ok none)) ∧
    (∀ others (question : TimedCall ν α) name, question.call.name? = some name →
      (∀ call ∈ others, ∃ other, call.call.name? = some other ∧ (name == other) = false) →
      ((cache.run others).2.answer question.time question.call).1 =
        (cache.answer question.time question.call).1) ∧
    (∀ name value ttl cause, now.later ttl = .error cause →
      cache.answer now (.set name value ttl) = (.refused cause, cache)) ∧
    cache.hits + cache.misses = calls.countP (·.call.isGet) ∧
    cache.sets = answers.countP CacheAnswer.isStored ∧
    cache.deletes = (answers.map CacheAnswer.removals).sum ∧
    ∀ label counts, cache.stats label now = .ok counts →
      Record.get? counts "hits" = some (.int cache.hits) ∧ Record.get? counts "misses" = some (.int cache.misses) ∧
      Record.get? counts "sets" = some (.int cache.sets) ∧
      Record.get? counts "deletes" = some (.int cache.deletes) := by
  intro cache answers
  have hcalls : ∀ call ∈ calls, call.time.lessEqual now = true := fun call hm =>
    (List.pairwise_append.mp hclock).2.2 _ (List.mem_map_of_mem hm) now (List.mem_singleton_self now)
  have hreflects : Reflects cache calls := reflects_run calls
  have hfound : ∀ name value, (cache.get name now).1 = some value ↔
      ∃ expiry, LastStored calls name value expiry ∧ now.less expiry = true := by
    intro name value
    rw [get_fst, live?_eq_some_iff]
    exact exists_congr fun expiry => and_congr_left fun hless => hreflects.entry?_iff hcalls hless
  refine ⟨hfound, fun name default hnone => ?_, fun hexact name => ?_, fun others question name hname hothers => ?_,
    fun name value ttl cause hlater => ?_, ?_⟩
  · cases hget : (cache.get name now).1 with
    | none => rfl
    | some value => exact absurd ⟨value, (hfound name value).mp hget⟩ hnone
  · exact hreflects.remaining_iff hexact hcalls name
  · exact answer_of_entry?_eq (entry?_run_of_ne hothers cache) hname question.time
  · rw [answer, set, hlater]
    rfl
  · obtain ⟨hasked, hsets, hdeletes⟩ := Counted.run ({} : Cache ν α) calls
    exact ⟨hasked.trans (Nat.zero_add _), hsets.trans (Nat.zero_add _), hdeletes.trans (Nat.zero_add _),
      fun label counts h => stats_counters h⟩

end

/-- A value that is stored under the number one is found under true, as that is the same name, and has one second left
at the end. -/
theorem Cache.run_answers_sameName :
    let one : EntryName := ⟨.int 1, rfl⟩
    let calls : List (TimedCall EntryName String) :=
      [⟨.int 1000, .set one "page" (.int 10)⟩, ⟨.int 1004, .get one⟩, ⟨.int 1004, .set one "other" .null⟩]
    Number.NeverBack (calls.map TimedCall.time ++ [.int 1009]) ∧ ExactTimes calls (.int 1009) ∧
      ∃ value expiry, LastStored calls ⟨.bool true, rfl⟩ value expiry ∧ (Number.int 1009).less expiry = true ∧
        expiry.sub? (.int 1009) = some (.int 1) ∧ Number.IsDifference expiry (.int 1009) (.int 1) := by
  intro one calls
  have hclock : Number.NeverBack (calls.map TimedCall.time ++ [.int 1009]) := by
    unfold Number.NeverBack
    decide +kernel
  have hexact : ExactTimes calls (.int 1009) := by
    rintro call hm name value expiry ⟨_, ttl, hcall, -, hlater⟩
    rcases List.mem_cons.mp hm with rfl | hm
    · cases hcall
      cases hlater
      exact ⟨.int 1, rfl, Number.isDifference_int 1010 1009⟩
    rcases List.mem_cons.mp hm with rfl | hm
    · cases hcall
    · cases List.mem_singleton.mp hm
      cases hcall
      cases hlater
  obtain ⟨-, -, hremaining, -⟩ := Cache.run_answers calls (.int 1009) hclock
  have hleft : (({} : Cache EntryName String).run calls).2.remaining ⟨.bool true, rfl⟩ (.int 1009) =
      .ok (some (.int 1)) := by
    decide +kernel
  exact ⟨hclock, hexact, ((hremaining hexact _).1 (.int 1)).mp hleft⟩

end FrontPage
