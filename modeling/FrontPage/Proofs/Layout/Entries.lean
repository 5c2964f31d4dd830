import FrontPage.Proofs.Layout.Naming

/-!
# Entries of a layout document

An entry of a layout document describes an active layout, or none (`Layout.active?`), and what it describes depends on
nothing but the entry. Only an entry that names a layout and sets it an infinite limit is more than that: there is no
configuration of a document with such an entry, and the configuration of any other document has what its entries
describe, in their order (`LayoutConfig.ofDocument_eq_ok_iff`).
-/

namespace FrontPage

/-! ## Single entries -/

/-- The entry names a layout, and the limit that it sets is infinite. -/
def Value.SetsInfiniteLimit : Value → Prop
  | .record entry =>
    (Record.get entry "layout_name").holds = true ∧
      (Record.get entry "layout_limit").toNumber? = some (.float (.infinite false))
  | _ => False

instance : DecidablePred Value.SetsInfiniteLimit
  | .record _ => inferInstanceAs (Decidable (_ ∧ _))
  | .null | .bool _ | .number _ | .text _ | .list _ => inferInstanceAs (Decidable False)

/-- The entry names a layout that is in use. -/
def Value.NamesActiveLayout : Value → Prop
  | .record entry =>
    (Record.get entry "layout_name").holds = true ∧ Layout.isActiveValue (Record.get entry "active") = true
  | _ => False

instance : DecidablePred Value.NamesActiveLayout
  | .record _ => inferInstanceAs (Decidable (_ ∧ _))
  | .null | .bool _ | .number _ | .text _ | .list _ => inferInstanceAs (Decidable False)

namespace Layout

/-- The active layout that an entry describes, if it describes one. -/
def active? (entry : Value) : Option Layout :=
  match ofValue entry with
  | .ok layout => if layout.active then some layout else none
  | .error _ => none

/-- A positive number has no whole part exactly if it is infinite. -/
theorem truncate_eq_error_iff {n : Number} (h : n.isPositive = true) :
    (∃ cause, n.truncate = .error cause) ↔ n = .float (.infinite false) := by
  cases n with
  | int k => simp [Number.truncate]
  | float x =>
    cases x with
    | finite negative units =>
      obtain ⟨whole, hwhole⟩ : ∃ whole, (Number.float (.finite negative units)).truncate = .ok whole := ⟨_, rfl⟩
      rw [hwhole]
      simp
    | infinite negative =>
      cases negative with
      | true =>
        have hbelow : (Number.float (.infinite true)).isPositive = false := rfl
        rw [hbelow] at h
        cases h
      | false =>
        constructor
        · intro _
          rfl
        · intro _
          exact ⟨_, rfl⟩
    | nan => cases h

/-- A value sets no limit exactly if it stands for infinity. -/
theorem limitOf_eq_error_iff {value : Value} {cause : LayoutError} :
    limitOf value = .error cause ↔
      cause = .infiniteLimit ∧ value.toNumber? = some (.float (.infinite false)) := by
  unfold limitOf
  cases hn : value.toNumber? with
  | none => simp
  | some n =>
    cases hp : n.isPositive with
    | false =>
      have hne : n ≠ .float (.infinite false) := by
        intro hinfinite
        rw [hinfinite] at hp
        cases hp
      simp [hp, hne]
    | true =>
      have hinfinite := truncate_eq_error_iff hp
      cases ht : n.truncate with
      | ok whole =>
        rw [ht] at hinfinite
        have hne : n ≠ .float (.infinite false) := fun heq => nomatch hinfinite.mpr heq
        simp [hp, ht, hne]
      | error flaw =>
        obtain rfl := hinfinite.mp ⟨flaw, ht⟩
        simp only [hp, ht, if_true, Except.error.injEq, and_true]
        exact eq_comm

section

variable {entry : Record}

/-- An entry without a name describes nothing. -/
theorem ofValue_of_unnamed (hname : (Record.get entry "layout_name").holds = false) :
    ofValue (.record entry) = .error (.unnamed (.record entry)) := by
  simp [ofValue, hname]

/-- An entry with a name and a limit describes a layout with that limit, in use if the entry says so. -/
theorem exists_ofValue (hname : (Record.get entry "layout_name").holds = true) {limit : Int}
    (hlimit : limitOf (Record.get entry "layout_limit") = .ok limit) :
    ∃ layout, ofValue (.record entry) = .ok layout ∧ layout.limit = .int limit ∧
      layout.active = isActiveValue (Record.get entry "active") := by
  simp [ofValue, hname, hlimit, Except.map]

/-- An entry with a name that sets no limit fails for that cause. -/
theorem ofValue_of_limitOf (hname : (Record.get entry "layout_name").holds = true) {cause : LayoutError}
    (hlimit : limitOf (Record.get entry "layout_limit") = .error cause) : ofValue (.record entry) = .error cause := by
  simp [ofValue, hname, hlimit, Except.map]

end

/-- An entry takes the document with it exactly if it sets an infinite limit. -/
theorem ofValue_eq_infiniteLimit_iff {entry : Value} :
    ofValue entry = .error .infiniteLimit ↔ entry.SetsInfiniteLimit := by
  cases entry with
  | record entry =>
    cases hname : (Record.get entry "layout_name").holds with
    | false => simp [ofValue_of_unnamed hname, Value.SetsInfiniteLimit, hname]
    | true =>
      cases hlimit : limitOf (Record.get entry "layout_limit") with
      | ok limit =>
        obtain ⟨layout, hlayout, -⟩ := exists_ofValue hname hlimit
        have hfinite : (Record.get entry "layout_limit").toNumber? ≠ some (.float (.infinite false)) := by
          intro hinfinite
          rw [limitOf_eq_error_iff.mpr ⟨rfl, hinfinite⟩] at hlimit
          cases hlimit
        simp [hlayout, Value.SetsInfiniteLimit, hfinite]
      | error cause =>
        obtain ⟨rfl, hinfinite⟩ := limitOf_eq_error_iff.mp hlimit
        simp [ofValue_of_limitOf hname hlimit, Value.SetsInfiniteLimit, hname, hinfinite]
  | _ => simp [ofValue, Value.SetsInfiniteLimit]

/-- The name of the layout that an entry describes is the name in the entry, as a text. -/
theorem name_of_ofValue {entry : Value} {layout : Layout} (h : ofValue entry = .ok layout) :
    ∃ fields, entry = .record fields ∧ layout.name = (Record.get fields "layout_name").toText := by
  cases entry with
  | record fields =>
    refine ⟨fields, rfl, ?_⟩
    simp only [ofValue] at h
    split at h
    · cases hlimit : limitOf (Record.get fields "layout_limit") with
      | ok limit =>
        rw [hlimit] at h
        cases h
        rfl
      | error cause =>
        rw [hlimit] at h
        cases h
    · cases h
  | _ => cases h

theorem active?_eq_some_iff {entry : Value} {layout : Layout} :
    active? entry = some layout ↔ ofValue entry = .ok layout ∧ layout.active = true := by
  unfold active?
  cases ofValue entry with
  | error cause => simp
  | ok described =>
    cases hactive : described.active with
    | true =>
      simp only [hactive, if_true, Option.some.injEq, Except.ok.injEq]
      constructor
      · rintro rfl
        exact ⟨rfl, hactive⟩
      · exact And.left
    | false =>
      simp only [hactive, Except.ok.injEq]
      constructor
      · intro hnone
        cases hnone
      · rintro ⟨rfl, htrue⟩
        rw [hactive] at htrue
        cases htrue

/-- An entry without an infinite limit describes an active layout exactly if it names one that is in use. -/
theorem exists_active?_iff {entry : Value} (h : ¬entry.SetsInfiniteLimit) :
    (∃ layout, active? entry = some layout) ↔ entry.NamesActiveLayout := by
  rw [← ofValue_eq_infiniteLimit_iff] at h
  simp only [active?_eq_some_iff]
  cases entry with
  | record entry =>
    cases hname : (Record.get entry "layout_name").holds with
    | false => simp [ofValue_of_unnamed hname, Value.NamesActiveLayout, hname]
    | true =>
      cases hlimit : limitOf (Record.get entry "layout_limit") with
      | ok limit =>
        obtain ⟨layout, hlayout, -, hactive⟩ := exists_ofValue hname hlimit
        simp [hlayout, Value.NamesActiveLayout, hname, hactive]
      | error cause =>
        obtain ⟨rfl, -⟩ := limitOf_eq_error_iff.mp hlimit
        exact absurd (ofValue_of_limitOf hname hlimit) h
  | _ => simp [ofValue, Value.NamesActiveLayout]

end Layout

/-! ## Documents -/

namespace LayoutConfig

/-- The entries of a document are read one by one, and the only one that matters to the others is one with an infinite
limit. -/
theorem activeLayouts_eq (entries : List Value) :
    activeLayouts entries =
      if ∃ entry ∈ entries, entry.SetsInfiniteLimit then .error .infiniteLimit
      else .ok (entries.filterMap Layout.active?) := by
  induction entries with
  | nil => rfl
  | cons entry rest ih =>
    have hinfinite : Layout.ofValue entry = .error .infiniteLimit ↔ entry.SetsInfiniteLimit :=
      Layout.ofValue_eq_infiniteLimit_iff
    rw [activeLayouts, ih]
    cases hentry : Layout.ofValue entry with
    | error cause =>
      cases cause with
      | unnamed described =>
        have hfinite : ¬entry.SetsInfiniteLimit := by
          rw [← hinfinite, hentry]
          simp
        simp [hfinite, Layout.active?, hentry]
      | infiniteLimit => simp [hinfinite.mp hentry]
    | ok layout =>
      have hfinite : ¬entry.SetsInfiniteLimit := by
        rw [← hinfinite, hentry]
        simp
      by_cases hrest : ∃ other ∈ rest, other.SetsInfiniteLimit
      · simp [hfinite, hrest, Except.map]
      · cases hactive : layout.active <;> simp [hfinite, hrest, Except.map, Layout.active?, hentry, hactive]

variable {entries : List Value} {config : LayoutConfig}

/-- **A document has a configuration unless one of its entries sets an infinite limit**, and then the configuration has
the active layouts that the entries describe. -/
theorem ofDocument_eq_ok_iff :
    ofDocument (.list entries) = .ok config ↔
      (∀ entry ∈ entries, ¬entry.SetsInfiniteLimit) ∧ config.active = entries.filterMap Layout.active? := by
  obtain ⟨layouts⟩ := config
  rw [ofDocument, activeLayouts_eq]
  by_cases h : ∃ entry ∈ entries, entry.SetsInfiniteLimit
  · rw [if_pos h]
    obtain ⟨entry, hm, hinfinite⟩ := h
    constructor
    · intro hloaded
      cases hloaded
    · rintro ⟨hall, -⟩
      exact absurd hinfinite (hall entry hm)
  · rw [if_neg h]
    have hall : ∀ entry ∈ entries, ¬entry.SetsInfiniteLimit := by simpa using h
    simp only [Except.map, Except.ok.injEq, mk.injEq]
    constructor
    · intro hlayouts
      exact ⟨hall, hlayouts.symm⟩
    · rintro ⟨-, hlayouts⟩
      exact hlayouts.symm

/-- Otherwise there is none, and it is said why. -/
theorem ofDocument_eq_infiniteLimit (h : ∃ entry ∈ entries, entry.SetsInfiniteLimit) :
    ofDocument (.list entries) = .error .infiniteLimit := by
  rw [ofDocument, activeLayouts_eq, if_pos h]
  rfl

end LayoutConfig

end FrontPage
