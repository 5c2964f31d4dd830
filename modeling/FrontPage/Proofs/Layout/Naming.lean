import FrontPage.Layout.Config
import FrontPage.Proofs.Number.Order
import Mathlib.Data.List.Find

/-!
# Layouts by name

Of several layouts of one name the last one counts (`LastNamed`): that is what both indexes of a configuration find
(`byName?_eq_some_iff`, `group?_eq_some_iff`), and for the names of article groups they agree (`group?_eq_byName?`).
Every layout of a configuration that was loaded from a document has a whole number as its limit
(`limit_of_mem_ofDocument`).
-/

namespace FrontPage

/-- The layout is the last of its name in a list. -/
def LastNamed (layouts : List Layout) (name : String) (layout : Layout) : Prop :=
  ∃ before behind, layouts = before ++ layout :: behind ∧ layout.name = name ∧ ∀ other ∈ behind, other.name ≠ name

namespace LayoutConfig

/-! ## Indexes -/

/-- Looking a name up finds the last layout of the name. -/
theorem lastNamed?_eq_some_iff {layouts : List Layout} {name : String} {layout : Layout} :
    lastNamed? layouts name = some layout ↔ LastNamed layouts name layout := by
  rw [lastNamed?, List.find?_eq_some_iff_append, beq_iff_eq]
  constructor
  · rintro ⟨hname, behind, before, hl, hb⟩
    refine ⟨before.reverse, behind.reverse, ?_, hname, fun other ho => ?_⟩
    · rw [← List.reverse_reverse layouts, hl]
      simp
    · simpa using hb other (List.mem_reverse.mp ho)
  · rintro ⟨before, behind, rfl, hname, hb⟩
    refine ⟨hname, behind.reverse, before.reverse, by simp, fun other ho => ?_⟩
    simpa using hb other (List.mem_reverse.mp ho)

/-- Layouts that a test by name leaves out do not matter for a name that passes the test. -/
theorem lastNamed?_filter {layouts : List Layout} {name : String} {p : Layout → Bool}
    (h : ∀ layout ∈ layouts, layout.name = name → p layout = true) :
    lastNamed? (layouts.filter p) name = lastNamed? layouts name := by
  rw [lastNamed?, lastNamed?, ← List.filter_reverse, List.find?_filter]
  refine List.find?_congr fun layout hm => ?_
  by_cases hname : layout.name = name
  · simp [hname, h layout (List.mem_reverse.mp hm) hname]
  · simp [hname]

/-- No two layouts are the last of a name. -/
theorem lastNamed_unique {layouts : List Layout} {name : String} {layout other : Layout}
    (h : LastNamed layouts name layout) (ho : LastNamed layouts name other) : other = layout := by
  rw [← lastNamed?_eq_some_iff] at h ho
  exact Option.some.inj (ho.symm.trans h)

variable {config : LayoutConfig} {name : String} {layout : Layout}

theorem byName?_eq_some_iff : config.byName? name = some layout ↔ LastNamed config.active name layout :=
  lastNamed?_eq_some_iff

/-- For the name of an article group both indexes find the same. -/
theorem group?_eq_byName? (h : Text.begins "ArticleGroup" name = true) : config.group? name = config.byName? name := by
  refine lastNamed?_filter fun layout _ hname => ?_
  rw [Layout.isArticleGroup, hname]
  exact h

theorem group?_eq_some_iff (h : Text.begins "ArticleGroup" name = true) :
    config.group? name = some layout ↔ LastNamed config.active name layout := by
  rw [group?_eq_byName? h, byName?_eq_some_iff]

/-! ## Limits of loaded layouts -/

end LayoutConfig

/-- The limit that a value sets is no negative number. -/
theorem Layout.limitOf_nonneg {value : Value} {limit : Int} (h : Layout.limitOf value = .ok limit) : 0 ≤ limit := by
  rw [Layout.limitOf] at h
  cases hn : value.toNumber? with
  | none =>
    rw [hn] at h
    cases h
    exact Int.le_refl 0
  | some n =>
    simp only [hn] at h
    cases hp : n.isPositive with
    | false =>
      rw [hp] at h
      cases h
      exact Int.le_refl 0
    | true =>
      rw [hp, if_pos rfl] at h
      cases ht : n.truncate with
      | error e =>
        rw [ht] at h
        cases h
      | ok whole =>
        rw [ht] at h
        cases h
        exact Number.truncate_nonneg hp ht

/-- The limit of the layout that an entry describes is a whole number. -/
theorem Layout.limit_of_ofValue {entry : Value} {layout : Layout} (h : Layout.ofValue entry = .ok layout) :
    ∃ limit : Nat, layout.limit = .int limit := by
  cases entry with
  | record entry =>
    simp only [Layout.ofValue] at h
    split at h
    · cases hl : Layout.limitOf (Record.get entry "layout_limit") with
      | error e =>
        rw [hl] at h
        cases h
      | ok limit =>
        rw [hl] at h
        cases h
        exact ⟨limit.toNat, by rw [Int.toNat_of_nonneg (Layout.limitOf_nonneg hl)]⟩
    · cases h
  | _ => cases h

namespace LayoutConfig

/-- The layouts that are loaded from entries have whole numbers as their limits. -/
theorem limit_of_mem_activeLayouts {entries : List Value} {layouts : List Layout}
    (h : activeLayouts entries = .ok layouts) : ∀ layout ∈ layouts, ∃ limit : Nat, layout.limit = .int limit := by
  induction entries generalizing layouts with
  | nil =>
    cases h
    simp
  | cons entry entries ih =>
    rw [activeLayouts] at h
    cases he : Layout.ofValue entry with
    | error cause =>
      rw [he] at h
      cases cause with
      | unnamed entry => exact ih h
      | infiniteLimit => cases h
    | ok first =>
      simp only [he] at h
      cases hr : activeLayouts entries with
      | error cause =>
        rw [hr] at h
        cases h
      | ok others =>
        rw [hr] at h
        cases h
        intro layout hm
        split at hm
        · rcases List.mem_cons.mp hm with rfl | hm
          · exact Layout.limit_of_ofValue he
          · exact ih hr layout hm
        · exact ih hr layout hm

/-- The layouts of a loaded configuration have whole numbers as their limits. -/
theorem limit_of_mem_ofDocument {document : Value} {config : LayoutConfig} (h : ofDocument document = .ok config)
    {layout : Layout} (hm : layout ∈ config.active) : ∃ limit : Nat, layout.limit = .int limit := by
  cases document with
  | list entries =>
    rw [ofDocument] at h
    cases hl : activeLayouts entries with
    | error cause =>
      rw [hl] at h
      cases h
    | ok layouts =>
      rw [hl] at h
      cases h
      exact limit_of_mem_activeLayouts hl layout hm
  | _ => cases h

end LayoutConfig

end FrontPage
