import FrontPage.Proofs.Value.Fields
import FrontPage.Settings

/-!
# Settings with overrides

Merging overrides into the defaults goes section by section, and what a section becomes depends on nothing but what it
is by default and in the overrides (`overridden`, `mergeSettings_record`, `MergesInto`). The merged settings are
overrides that merge to themselves (`combine_overridden_twice`), so that it does not matter how often settings are
merged before there is an environment. All of this is `mergeSettings_laws`.
-/

namespace FrontPage

/-- The names of sections are different, and so are the names in every section. -/
structure WellNamed (settings : Record) : Prop where
  sections : (settings.map Prod.fst).Nodup
  keys : ∀ name fields, (name, Value.record fields) ∈ settings → (fields.map Prod.fst).Nodup

/-- What overrides make of the defaults: every section is kept, with its keys unless another value is given for them,
and what is given is taken. -/
structure MergesInto (defaults overrides merged : Record) : Prop where
  /-- No default section is lost. -/
  keeps : ∀ name ∈ defaults.map Prod.fst, name ∈ merged.map Prod.fst
  untouched : ∀ name, Record.get? overrides name = none → Record.get? merged name = Record.get? defaults name
  /-- A section that is a record on both sides has the keys of both, and the values given for them. -/
  merges : ∀ name fields values, Record.get? defaults name = some (.record fields) →
    Record.get? overrides name = some (.record values) → ∃ both, Record.get? merged name = some (.record both) ∧
      ∀ key, Record.get? both key = (Record.get? values key).or (Record.get? fields key)
  /-- A section that is none by default is taken as it is. -/
  adds : ∀ name value, Record.get? defaults name = none → Record.get? overrides name = some value →
    Record.get? merged name = some value
  /-- What is no record replaces the section. -/
  replaces : ∀ name value, Record.get? overrides name = some value → (∀ values, value ≠ .record values) →
    Record.get? merged name = some value

/-! ## One section -/

/-- What becomes of a section for which a value is given. -/
def overridden : Option Value → Value → Value
  | some (.record fields), .record values => .record (Record.merge fields values)
  | _, value => value

theorem overridden_of_not_record {value : Value} (h : ∀ values, value ≠ .record values) (default? : Option Value) :
    overridden default? value = value := by
  unfold overridden
  split
  · exact absurd rfl (h _)
  · rfl

/-- Overriding a section with what it has become changes nothing more. -/
theorem overridden_twice {default? : Option Value}
    (h : ∀ fields, default? = some (.record fields) → (fields.map Prod.fst).Nodup) (value : Value) :
    overridden default? (overridden default? value) = overridden default? value := by
  cases default? with
  | none => rfl
  | some default =>
    cases default with
    | record fields =>
      cases value with
      | record values => exact congrArg Value.record (Record.merge_merge (h fields rfl) values)
      | _ => rfl
    | _ => rfl

/-- Overriding a section with itself changes nothing. -/
theorem overridden_self {default : Value} (h : ∀ fields, default = .record fields → (fields.map Prod.fst).Nodup) :
    overridden (some default) default = default := by
  cases default with
  | record fields => exact congrArg Value.record (Record.merge_self (h fields rfl))
  | _ => rfl

/-! ## All sections -/

theorem mergeSection_eq (settings : Record) (part : String × Value) :
    mergeSection settings part =
      Record.set settings part.1 (overridden (Record.get? settings part.1) part.2) := by
  obtain ⟨name, value⟩ := part
  unfold mergeSection
  dsimp only
  cases Record.get? settings name with
  | none => rfl
  | some default => cases default <;> cases value <;> rfl

/-- Overrides that are a record are merged section by section. -/
theorem mergeSettings_record (defaults overrides : Record) :
    mergeSettings defaults (.record overrides) = .ok (Record.combine overridden defaults overrides) := by
  have hfold : overrides.foldl mergeSection defaults = Record.combine overridden defaults overrides := by
    rw [Record.combine]
    exact congrArg (fun step => overrides.foldl step defaults) (funext fun settings => funext (mergeSection_eq settings))
  unfold mergeSettings
  cases overrides with
  | nil => rfl
  | cons part rest => exact congrArg Except.ok hfold

variable {defaults overrides : Record}

theorem WellNamed.nodup_of_get? (h : WellNamed defaults) {name : String} {fields : Record}
    (hfound : Record.get? defaults name = some (.record fields)) : (fields.map Prod.fst).Nodup :=
  h.keys name fields (Record.mem_of_get? hfound)

/-- **What overrides make of the defaults** is told section by section. -/
theorem mergesInto_combine (h : WellNamed overrides) :
    MergesInto defaults overrides (Record.combine overridden defaults overrides) := by
  have hget (name : String) : Record.get? (Record.combine overridden defaults overrides) name =
      ((Record.get? overrides name).map (overridden (Record.get? defaults name))).or (Record.get? defaults name) :=
    Record.get?_combine defaults h.sections name
  constructor
  case keeps => exact fun name hname => (Record.prefix_combine defaults overrides).subset hname
  case untouched =>
    intro name hnone
    rw [hget, hnone]
    rfl
  case merges =>
    intro name fields values hfields hvalues
    refine ⟨Record.merge fields values, ?_, Record.get?_merge fields (h.nodup_of_get? hvalues)⟩
    rw [hget, hfields, hvalues]
    rfl
  case adds =>
    intro name value hnone hvalue
    rw [hget, hnone, hvalue]
    rfl
  case replaces =>
    intro name value hvalue hnot
    rw [hget, hvalue, Option.map_some, overridden_of_not_record hnot]
    rfl

/-- **Merged settings merge to themselves.** -/
theorem combine_overridden_twice (hdefaults : WellNamed defaults) (h : WellNamed overrides) :
    Record.combine overridden defaults (Record.combine overridden defaults overrides) =
      Record.combine overridden defaults overrides := by
  have hnodup : ((Record.combine overridden defaults overrides).map Prod.fst).Nodup :=
    Record.nodup_combine hdefaults.sections overrides
  refine Record.combine_eq_right (Record.prefix_combine defaults overrides) hnodup ?_
  rintro ⟨name, value⟩ hm
  have hvalue := Record.get?_of_mem hnodup hm
  rw [Record.get?_combine defaults h.sections] at hvalue
  show overridden (Record.get? defaults name) value = value
  cases hgiven : Record.get? overrides name with
  | some given =>
    rw [hgiven] at hvalue
    obtain rfl : overridden (Record.get? defaults name) given = value := Option.some.inj hvalue
    exact overridden_twice (fun fields hfields => hdefaults.nodup_of_get? hfields) given
  | none =>
    rw [hgiven] at hvalue
    have hdefault : Record.get? defaults name = some value := hvalue
    rw [hdefault]
    refine overridden_self fun fields hfields => ?_
    rw [hfields] at hdefault
    exact hdefaults.nodup_of_get? hdefault

/-- Overrides that agree on a section give settings that agree on it. -/
theorem get?_combine_congr {others : Record} (h : (overrides.map Prod.fst).Nodup) (ho : (others.map Prod.fst).Nodup)
    {name : String} (hsame : Record.get? others name = Record.get? overrides name) :
    Record.get? (Record.combine overridden defaults others) name =
      Record.get? (Record.combine overridden defaults overrides) name := by
  rw [Record.get?_combine defaults ho, Record.get?_combine defaults h, hsame]

theorem wellNamed_defaultSettings (objectDirectory databaseUri : String) :
    WellNamed (defaultSettings objectDirectory databaseUri) := by
  refine ⟨?_, ?_⟩
  · show (["storage", "database", "layouts", "cache", "render"] : List String).Nodup
    decide
  intro name fields hm
  simp only [defaultSettings, List.mem_cons, Prod.mk.injEq, Value.record.injEq, List.not_mem_nil, or_false] at hm
  obtain ⟨-, rfl⟩ | ⟨-, rfl⟩ | ⟨-, rfl⟩ | ⟨-, rfl⟩ | ⟨-, rfl⟩ := hm <;> simp

/-! ## Environments -/

/-- If settings merge to themselves, the setup with a store is the one for the overrides that they came from. -/
theorem Setup.withStore_eq_ok_iff {σ : Type} {openStore : Value → Except SettingsError σ} {given : Value}
    {merged : Record} (h : mergeSettings defaults given = .ok merged)
    (htwice : mergeSettings defaults (.record merged) = .ok merged) {store : σ} {setup : Setup} :
    Setup.withStore openStore defaults given = .ok (store, setup) ↔
      (∃ directory, storageDirectory merged = .ok directory ∧ openStore directory = .ok store) ∧
        Setup.ofOverrides defaults given = .ok setup := by
  have hsetup : Setup.ofOverrides defaults (.record merged) = Setup.ofOverrides defaults given := by
    rw [ofOverrides, ofOverrides, h, htwice]
  rw [withStore, h]
  simp only [bind, Except.bind, pure, Except.pure, hsetup]
  cases storageDirectory merged with
  | error cause => simp
  | ok directory =>
    cases hopened : openStore directory with
    | error cause => simp [hopened]
    | ok opened =>
      cases Setup.ofOverrides defaults given with
      | error cause => simp [hopened]
      | ok found => simp [hopened]

/-- **Overrides are merged into the defaults once and for all.** Every section and every key of the defaults is kept
unless another value is given for it; what is given is taken, and replaces a section unless both are records. Merging
the result again changes nothing, so that an environment that is made with a store is the one that the overrides
describe themselves. What becomes of a section depends on no other one. -/
theorem mergeSettings_laws (objectDirectory databaseUri : String) (h : WellNamed overrides) :
    ∃ merged, mergeSettings (defaultSettings objectDirectory databaseUri) (.record overrides) = .ok merged ∧
      MergesInto (defaultSettings objectDirectory databaseUri) overrides merged ∧
      mergeSettings (defaultSettings objectDirectory databaseUri) (.record merged) = .ok merged ∧
      (∀ {σ : Type} (openStore : Value → Except SettingsError σ) (store : σ) (setup : Setup),
        Setup.withStore openStore (defaultSettings objectDirectory databaseUri) (.record overrides) =
            .ok (store, setup) ↔
          (∃ directory, storageDirectory merged = .ok directory ∧ openStore directory = .ok store) ∧
            Setup.ofOverrides (defaultSettings objectDirectory databaseUri) (.record overrides) = .ok setup) ∧
      ∀ others, WellNamed others → ∀ name, Record.get? others name = Record.get? overrides name →
        ∃ result, mergeSettings (defaultSettings objectDirectory databaseUri) (.record others) = .ok result ∧
          Record.get? result name = Record.get? merged name := by
  have hmerged := mergeSettings_record (defaultSettings objectDirectory databaseUri) overrides
  have htwice : mergeSettings (defaultSettings objectDirectory databaseUri)
      (.record (Record.combine overridden (defaultSettings objectDirectory databaseUri) overrides)) =
        .ok (Record.combine overridden (defaultSettings objectDirectory databaseUri) overrides) := by
    rw [mergeSettings_record, combine_overridden_twice (wellNamed_defaultSettings _ _) h]
  refine ⟨_, hmerged, mergesInto_combine h, htwice, ?_, ?_⟩
  · intro σ openStore store setup
    exact Setup.withStore_eq_ok_iff hmerged htwice
  · intro others hothers name hsame
    exact ⟨_, mergeSettings_record _ others, get?_combine_congr h.sections hothers.sections hsame⟩

/-- Overrides of a key, of a section that becomes nothing, and of one that is unknown. -/
def themedOverrides : Record :=
  [("layouts", .record [("combined_file", .text "all.js"), ("theme", .text "dark")]), ("render", .null),
   ("site", .record [("name", .text "News")])]

/-- The other keys of the section stay, the section that became nothing is nothing, and merging again changes
nothing. -/
theorem mergeSettings_laws_themedOverrides : WellNamed themedOverrides ∧
    ∃ merged layouts, mergeSettings (defaultSettings "objects" "articles.db") (.record themedOverrides) = .ok merged ∧
      Record.get? merged "layouts" = some (.record layouts) ∧
      Record.get? layouts "source_key" = some (.text "sys-system-layouts.json") ∧
      Record.get? layouts "combined_file" = some (.text "all.js") ∧
      Record.get? merged "render" = some .null ∧
      mergeSettings (defaultSettings "objects" "articles.db") (.record merged) = .ok merged := by
  have hnamed : WellNamed themedOverrides := by
    refine ⟨by decide +kernel, ?_⟩
    intro name fields hm
    simp only [themedOverrides, List.mem_cons, Prod.mk.injEq, Value.record.injEq, List.not_mem_nil, or_false,
      reduceCtorEq, and_false, false_or] at hm
    obtain ⟨-, rfl⟩ | ⟨-, rfl⟩ := hm <;> decide +kernel
  obtain ⟨merged, hmerged, hlaws, htwice, -, -⟩ := mergeSettings_laws "objects" "articles.db" hnamed
  obtain ⟨layouts, hlayouts, hkeys⟩ := hlaws.merges "layouts" _ _ rfl rfl
  exact ⟨hnamed, merged, layouts, hmerged, hlayouts, hkeys "source_key", hkeys "combined_file",
    hlaws.replaces "render" .null rfl nofun, htwice⟩

end FrontPage
