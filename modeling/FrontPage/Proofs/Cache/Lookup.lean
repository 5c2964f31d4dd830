import FrontPage.Cache

/-!
# What is found under a name

What each operation of the cache leaves under each name. Putting an entry under a name (`Cache.entry?_put`) and removing
it (`Cache.entry?_invalidate`) leave the other names alone. Asking for a name leaves what is live, and nothing where
there is something that is not (`Cache.entry?_get`).
-/

namespace FrontPage.Cache

variable {ν α : Type} [BEq ν] [PartialEquivBEq ν] {cache : Cache ν α} {name other : ν} {now : Number}

theorem lookup_congr (h : (other == name) = true) (entries : List (ν × CacheEntry α)) :
    entries.lookup other = entries.lookup name := by
  induction entries with
  | nil => rfl
  | cons first rest ih => rw [List.lookup_cons, List.lookup_cons, BEq.congr_left h, ih]

theorem lookup_without (cache : Cache ν α) (name other : ν) :
    (cache.without name).lookup other = if other == name then none else cache.entry? other := by
  unfold without entry?
  induction cache.entries with
  | nil => simp
  | cons first rest ih =>
    rw [List.filter_cons, List.lookup_cons]
    by_cases hname : (first.1 == name) = true
    · have hother : (other == first.1) = (other == name) := BEq.congr_right hname
      rw [if_neg (by simp only [bne, hname]; decide), ih, hother]
      cases other == name <;> rfl
    · rw [if_pos (by simpa [bne] using hname), List.lookup_cons, ih]
      by_cases hother : (other == first.1) = true
      · have hne : (other == name) = false := by rw [BEq.congr_left hother]; simpa using hname
        rw [hother, hne]
        rfl
      · rw [Bool.not_eq_true _ |>.mp hother]

theorem lookup_putEntry (name other : ν) (entry : CacheEntry α) (entries : List (ν × CacheEntry α)) :
    (putEntry name entry entries).lookup other = if other == name then some entry else entries.lookup other := by
  induction entries with
  | nil =>
    rw [putEntry, List.lookup_cons]
    cases other == name <;> rfl
  | cons first rest ih =>
    obtain ⟨n, old⟩ := first
    rw [putEntry, List.lookup_cons]
    by_cases hname : (n == name) = true
    · have hother : (other == n) = (other == name) := BEq.congr_right hname
      rw [if_pos hname, List.lookup_cons, hother]
      cases other == name <;> rfl
    · rw [if_neg hname, List.lookup_cons, ih]
      by_cases hother : (other == n) = true
      · have hne : (other == name) = false := by rw [BEq.congr_left hother]; simpa using hname
        rw [hother, hne]
        rfl
      · rw [Bool.not_eq_true _ |>.mp hother]

theorem entry?_put (cache : Cache ν α) (name other : ν) (value : α) (expiry : Number) :
    Cache.entry? (cache.put name value expiry) other =
      if other == name then some ⟨value, expiry⟩ else cache.entry? other :=
  lookup_putEntry name other ⟨value, expiry⟩ cache.entries

theorem entry?_invalidate (cache : Cache ν α) (name other : ν) :
    Cache.entry? (cache.invalidate name).2 other = if other == name then none else cache.entry? other := by
  unfold invalidate
  split
  · exact lookup_without cache name other
  · next hnone =>
    by_cases hother : (other == name) = true
    · rw [if_pos hother]
      exact (lookup_congr hother _).trans (Option.not_isSome_iff_eq_none.mp hnone)
    · rw [if_neg hother]

theorem entry?_invalidateAll (cache : Cache ν α) (names : List ν) (other : ν) :
    Cache.entry? (cache.invalidateAll names).2 other = if names.any (other == ·) then none else cache.entry? other := by
  induction names generalizing cache with
  | nil => rfl
  | cons name rest ih =>
    show Cache.entry? ((cache.invalidate name).2.invalidateAll rest).2 other = _
    rw [ih, entry?_invalidate, List.any_cons]
    cases other == name <;> simp

omit [PartialEquivBEq ν] in
theorem live?_eq_some_iff {value : α} : cache.live? name now = some value ↔
    ∃ expiry, cache.entry? name = some ⟨value, expiry⟩ ∧ now.less expiry = true := by
  unfold live?
  cases cache.entry? name with
  | none => simp
  | some entry =>
    obtain ⟨held, expiry⟩ := entry
    by_cases hless : now.less expiry = true
    · rw [Option.bind_some, if_pos hless]
      constructor
      · intro h
        cases h
        exact ⟨expiry, rfl, hless⟩
      · rintro ⟨_, hentry, -⟩
        cases hentry
        rfl
    · rw [Option.bind_some, if_neg hless]
      constructor
      · intro h
        cases h
      · rintro ⟨_, hentry, h⟩
        cases hentry
        exact absurd h hless

omit [PartialEquivBEq ν] in
theorem get_fst (cache : Cache ν α) (name : ν) (now : Number) : (cache.get name now).1 = cache.live? name now := by
  unfold get
  cases cache.live? name now <;> rfl

theorem entry?_get (cache : Cache ν α) (name other : ν) (now : Number) :
    Cache.entry? (cache.get name now).2 other =
      if (other == name) = true ∧ cache.live? name now = none then none else cache.entry? other := by
  unfold get
  cases hlive : cache.live? name now with
  | some value => simp [Cache.entry?]
  | none => simpa [Cache.entry?] using lookup_without cache name other

/-- Asking for a name under which nothing is live leaves nothing there. -/
theorem entry?_get_of_not_live [ReflBEq ν] (h : cache.live? name now = none) :
    Cache.entry? (cache.get name now).2 name = none :=
  (entry?_get cache name name now).trans (if_pos ⟨beq_self_eq_true name, h⟩)

/-- Asking for a name leaves what there is under any name, or leaves nothing where there is an entry that is not
live. -/
theorem entry?_get_cases (cache : Cache ν α) (name other : ν) (now : Number) :
    Cache.entry? (cache.get name now).2 other = cache.entry? other ∨
    Cache.entry? (cache.get name now).2 other = none ∧
      ∃ entry, cache.entry? other = some entry ∧ now.less entry.expiry = false := by
  rw [entry?_get]
  split
  · next h =>
    obtain ⟨hname, hnone⟩ := h
    cases hentry : cache.entry? other with
    | none => exact .inl rfl
    | some entry =>
      refine .inr ⟨rfl, entry, rfl, Bool.eq_false_iff.mpr fun hless => ?_⟩
      have hlive : cache.live? name now = some entry.value :=
        live?_eq_some_iff.mpr ⟨entry.expiry, (lookup_congr hname _).symm.trans hentry, hless⟩
      rw [hnone] at hlive
      cases hlive
  · exact .inl rfl

end FrontPage.Cache
