import FrontPage.Value.Parts
import FrontPage.Value.Text

/-!
# The cache

A cache holds values under names until their expiry, on a clock that is handed in. An entry is live while the clock is
below its expiry; `get` drops an entry that is not. Setting a value adds its time to live to the clock
(`Number.later`), and fails without any effect if that has no result. The time that an entry has left may have no result
either (`remaining`). The cache counts hits, misses, settings and deletions. Names are texts, or any values but lists
and records (`EntryName`).
-/

namespace FrontPage

/-- A value with the time at which it expires. -/
structure CacheEntry (α : Type) where
  value : α
  expiry : Number

/-- Values under names, and what was done with them. -/
structure Cache (ν α : Type) where
  entries : List (ν × CacheEntry α) := []
  hits : Nat := 0
  misses : Nat := 0
  sets : Nat := 0
  deletes : Nat := 0

/-- Why a time has no sum with a duration, or no difference from another. -/
inductive DurationError where
  | notANumber
  | tooLarge
  deriving DecidableEq, Repr

/-- The time that is a duration later. -/
def Number.later (time : Number) (duration : Value) : Except DurationError Number :=
  match duration.asNumber? with
  | none => .error .notANumber
  | some d =>
    match time.add? d with
    | some sum => .ok sum
    | none => .error .tooLarge

/-- The time that an entry has left, if it has any. -/
def CacheEntry.left {α : Type} (entry : CacheEntry α) (now : Number) : Except DurationError (Option Number) :=
  match entry.expiry.sub? now with
  | some left => .ok (if left.isPositive then some left else none)
  | none => .error .tooLarge

namespace Cache

variable {ν α : Type} [BEq ν]

/-- The entry under a name. -/
def entry? (cache : Cache ν α) (name : ν) : Option (CacheEntry α) := cache.entries.lookup name

/-- The value under a name that is live at a time. -/
def live? (cache : Cache ν α) (name : ν) (now : Number) : Option α :=
  (cache.entry? name).bind fun entry => if now.less entry.expiry then some entry.value else none

/-- The entries without the one under a name. -/
def without (cache : Cache ν α) (name : ν) : List (ν × CacheEntry α) :=
  cache.entries.filter fun e => e.1 != name

/-- The value under a name if it is live, and the cache after it was asked for. -/
def get (cache : Cache ν α) (name : ν) (now : Number) : Option α × Cache ν α :=
  match cache.live? name now with
  | some value => (some value, { cache with hits := cache.hits + 1 })
  | none => (none, { cache with entries := cache.without name, misses := cache.misses + 1 })

/-- The entries with one put under a name. -/
def putEntry (name : ν) (entry : CacheEntry α) : List (ν × CacheEntry α) → List (ν × CacheEntry α)
  | [] => [(name, entry)]
  | (n, e) :: rest => if n == name then (n, entry) :: rest else (n, e) :: putEntry name entry rest

/-- The cache with a value put under a name until an expiry. -/
def put (cache : Cache ν α) (name : ν) (value : α) (expiry : Number) : Cache ν α :=
  { cache with entries := putEntry name ⟨value, expiry⟩ cache.entries, sets := cache.sets + 1 }

/-- The cache with a value put under a name for a time. -/
def set (cache : Cache ν α) (name : ν) (value : α) (ttl : Value) (now : Number) :
    Except DurationError (Cache ν α) :=
  (now.later ttl).map (cache.put name value)

/-- Whether there is an entry under a name, live or not, and the cache without it. -/
def invalidate (cache : Cache ν α) (name : ν) : Bool × Cache ν α :=
  if (cache.entry? name).isSome then
    (true, { cache with entries := cache.without name, deletes := cache.deletes + 1 })
  else (false, cache)

/-- The time that the entry under a name has left, if it has any. -/
def remaining (cache : Cache ν α) (name : ν) (now : Number) : Except DurationError (Option Number) :=
  match cache.entry? name with
  | some entry => entry.left now
  | none => .ok none

/-- The entries under some names removed one after the other, with what was there. -/
def invalidateAll (cache : Cache ν α) : List ν → List (ν × Bool) × Cache ν α
  | [] => ([], cache)
  | name :: rest =>
    let (existed, cache) := cache.invalidate name
    let (cleared, cache) := cache.invalidateAll rest
    ((name, existed) :: cleared, cache)

end Cache

/-- What was done with the cache, and the time that its entries have left, their names being shown in some way. -/
def Cache.stats {ν α : Type} (cache : Cache ν α) (label : ν → String) (now : Number) :
    Except DurationError Record := do
  let left ← cache.entries.mapM fun (name, entry) => do
    let left ← entry.left now
    pure (label name, (left.map Value.number).getD .null)
  pure
    [ ("hits", .int cache.hits),
      ("misses", .int cache.misses),
      ("sets", .int cache.sets),
      ("deletes", .int cache.deletes),
      ("entries", .record (Record.merge [] left)) ]

/-- A value that can be looked up, as a name. -/
structure EntryName where
  value : Value
  isName : value.isName = true

namespace EntryName

/-- Names are the same if the values are equal: 1, 1.0 and true are one name. -/
instance : BEq EntryName := ⟨fun a b => a.value.equals b.value⟩

/-- The text that shows a name. -/
def label (name : EntryName) : String := name.value.toText

/-- The name that a value is; lists and records are none. -/
def ofValue (value : Value) : Except Misuse EntryName :=
  if h : value.isName = true then .ok ⟨value, h⟩ else .error .wrongKind

end EntryName

/-- As `invalidate`, under any value; where there is no entry, none has to be looked up. -/
def Cache.invalidateValue {α : Type} (cache : Cache EntryName α) (name : Value) :
    Except Misuse (Bool × Cache EntryName α) :=
  if cache.entries.isEmpty then .ok (false, cache) else (EntryName.ofValue name).map cache.invalidate

end FrontPage
