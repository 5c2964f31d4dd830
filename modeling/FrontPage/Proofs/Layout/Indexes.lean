import FrontPage.Proofs.Classification.Resolution
import FrontPage.Proofs.Layout.Entries
import FrontPage.Proofs.Value.Equality

/-!
# Indexes of a configuration

A configuration is seen in several ways: as the active layouts in their order, by name, as the groups of articles in
their order, and, by the rules that classify an article, as the groups by name. All of them show the same layouts
(`LayoutConfig.indexes_agree`). By name there is one layout for each name that occurs, the last of it
(`LayoutConfig.lookup_byName`), and an entry that is not in use hides no other.
-/

namespace FrontPage

/-! ## Tables -/

/-- A table of what a function gives for some keys has for a key of them what the function gives. -/
theorem lookup_filterMap_pairs {keys : List String} (f : String → Option Layout) (name : String) :
    (keys.filterMap fun key => (f key).map fun layout => (key, layout)).lookup name =
      if name ∈ keys then f name else none := by
  induction keys with
  | nil => rfl
  | cons key rest ih =>
    rw [List.filterMap_cons]
    cases hkey : f key with
    | none =>
      simp only [Option.map_none, ih, List.mem_cons]
      by_cases hname : name = key
      · rw [hname, hkey]
        simp
      · simp [hname]
    | some layout =>
      simp only [Option.map_some, List.lookup_cons, ih, List.mem_cons]
      by_cases hname : name = key
      · simp [hname, hkey]
      · have hother : (name == key) = false := beq_eq_false_iff_ne.mpr hname
        simp [hname, hother]

/-- Its keys are some of those. -/
theorem sublist_filterMap_pairs {keys : List String} (f : String → Option Layout) :
    ((keys.filterMap fun key => (f key).map fun layout => (key, layout)).map (·.1)).Sublist keys := by
  induction keys with
  | nil => exact List.nil_sublist []
  | cons key rest ih =>
    rw [List.filterMap_cons]
    cases f key with
    | none => exact ih.cons key
    | some layout => exact ih.cons_cons key

/-- Where duplicates are left out, there are none. -/
theorem nodup_eraseDups_names : ∀ names : List String, names.eraseDups.Nodup
  | [] => List.nodup_nil
  | name :: rest => by
    rw [List.eraseDups_cons, List.nodup_cons]
    constructor
    · simp
    · exact nodup_eraseDups_names (rest.filter fun other => !other == name)
termination_by names => names.length
decreasing_by exact Nat.lt_succ_of_le (List.length_filter_le _ _)

namespace LayoutConfig

variable {config : LayoutConfig} {entries : List Value}

/-! ## Layouts by name -/

/-- Some layout has a name by which one is found. -/
theorem isSome_byName?_iff {name : String} :
    (∃ layout, config.byName? name = some layout) ↔ ∃ layout ∈ config.active, layout.name = name := by
  rw [← Option.isSome_iff_exists, byName?, lastNamed?, List.find?_isSome]
  simp

/-- The layouts by name hold what looking the name up finds. -/
theorem lookup_byName (config : LayoutConfig) (name : String) : config.byName.lookup name = config.byName? name := by
  rw [byName, lookup_filterMap_pairs]
  by_cases hname : name ∈ (config.active.map Layout.name).eraseDups
  · rw [if_pos hname]
  · rw [if_neg hname]
    rw [List.mem_eraseDups, List.mem_map] at hname
    cases hfound : config.byName? name with
    | none => rfl
    | some layout => exact absurd (isSome_byName?_iff.mp ⟨layout, hfound⟩) hname

/-- No name is there twice. -/
theorem nodup_byName (config : LayoutConfig) : (config.byName.map (·.1)).Nodup :=
  (nodup_eraseDups_names _).sublist (sublist_filterMap_pairs _)

/-! ## Groups of articles -/

/-- The groups of articles are the layouts whose names begin so. -/
theorem articleGroups_eq (config : LayoutConfig) :
    config.articleGroups = config.active.filter fun layout => decide ("ArticleGroup".toList <+: layout.name.toList) := by
  apply List.filter_congr
  intro layout _
  rw [Layout.isArticleGroup, Text.begins, Bool.eq_iff_iff, List.isPrefixOf_iff_prefix, decide_eq_true_iff]

/-- By the name of a group the rules of classification find what the layouts by name hold. -/
theorem group?_eq_lookup {name : String} (h : "ArticleGroup".toList <+: name.toList) :
    config.group? name = config.byName.lookup name := by
  rw [lookup_byName]
  apply group?_eq_byName?
  exact List.isPrefixOf_iff_prefix.mpr h

/-- So they settle about a group what its layout by name settles. -/
theorem claim_articleGroup (config : LayoutConfig) (slot : Fin 9) (record : Record) :
    (Flag.articleGroup slot).claim config record =
      match config.byName.lookup (Flag.articleGroup slot).layoutName with
      | some layout => if layout.takes record then layout.claim else .settled false
      | none => .settled false := by
  have hfound : config.group? (Flag.articleGroup slot).layoutName =
      config.byName.lookup (Flag.articleGroup slot).layoutName := by
    rw [lookup_byName]
    exact group?_eq_byName? (Flag.begins_layoutName slot)
  rw [← hfound]
  rfl

/-! ## Entries that are in use -/

/-- The layouts that entries describe are those of the entries that name one in use. -/
theorem forall₂_filterMap_active? (h : ∀ entry ∈ entries, ¬entry.SetsInfiniteLimit) :
    List.Forall₂ (fun entry layout => Layout.active? entry = some layout)
      (entries.filter fun entry => decide entry.NamesActiveLayout) (entries.filterMap Layout.active?) := by
  induction entries with
  | nil => exact .nil
  | cons entry rest ih =>
    have hrest := ih fun other ho => h other (List.mem_cons_of_mem _ ho)
    have hnames := Layout.exists_active?_iff (h entry List.mem_cons_self)
    cases hentry : Layout.active? entry with
    | none =>
      have hnot : ¬entry.NamesActiveLayout := by
        rw [← hnames, hentry]
        simp
      rw [List.filterMap_cons_none hentry, List.filter_cons_of_neg (by simpa using hnot)]
      exact hrest
    | some layout =>
      rw [List.filterMap_cons_some hentry, List.filter_cons_of_pos (by simpa using hnames.mp ⟨layout, hentry⟩)]
      exact .cons hentry hrest

/-- An entry that names no layout in use can be left out. -/
theorem ofDocument_of_not_namesActiveLayout {before behind : List Value} {entry : Value}
    (h : ofDocument (.list (before ++ entry :: behind)) = .ok config) (hentry : ¬entry.NamesActiveLayout) :
    ofDocument (.list (before ++ behind)) = .ok config := by
  obtain ⟨hfinite, hactive⟩ := ofDocument_eq_ok_iff.mp h
  have hnone : Layout.active? entry = none := by
    cases hdescribed : Layout.active? entry with
    | none => rfl
    | some layout => exact absurd ((Layout.exists_active?_iff (hfinite entry (by simp))).mp ⟨layout, hdescribed⟩) hentry
  apply ofDocument_eq_ok_iff.mpr
  constructor
  · intro other ho
    apply hfinite
    rw [List.mem_append] at ho
    rw [List.mem_append, List.mem_cons]
    exact ho.imp_right .inr
  · rw [hactive, List.filterMap_append, List.filterMap_append, List.filterMap_cons_none hnone]

/-! ## Agreement -/

/-- **The indexes of a configuration agree with the document and with each other.** The active layouts are those of the
entries that name one in use, in their order, and the other entries change nothing. By name there is exactly one layout
for each of their names, the last that has it. The groups of articles are those of the active layouts whose names begin
so, and for each such name the rules of classification find the layout that is there by name, or none if none is. -/
theorem indexes_agree (h : ofDocument (.list entries) = .ok config) :
    List.Forall₂ (fun entry layout => Layout.ofValue entry = .ok layout ∧
        (∃ fields, entry = .record fields ∧ layout.name = (Record.get fields "layout_name").toText) ∧
        ∃ limit : Nat, layout.limit = .int limit)
      (entries.filter fun entry => decide entry.NamesActiveLayout) config.active ∧
    (∀ before entry behind, entries = before ++ entry :: behind → ¬entry.NamesActiveLayout →
      ofDocument (.list (before ++ behind)) = .ok config) ∧
    (config.byName.map (·.1)).Nodup ∧
    (∀ name, (∃ layout, config.byName.lookup name = some layout) ↔ ∃ layout ∈ config.active, layout.name = name) ∧
    (∀ name layout, config.byName.lookup name = some layout ↔ LastNamed config.active name layout) ∧
    config.articleGroups = (config.active.filter fun layout => decide ("ArticleGroup".toList <+: layout.name.toList)) ∧
    (∀ name, "ArticleGroup".toList <+: name.toList → config.group? name = config.byName.lookup name) ∧
    ∀ slot record, (Flag.articleGroup slot).claim config record =
      match config.byName.lookup (Flag.articleGroup slot).layoutName with
      | some layout => if layout.takes record then layout.claim else .settled false
      | none => .settled false := by
  obtain ⟨hfinite, hactive⟩ := ofDocument_eq_ok_iff.mp h
  refine ⟨?_, ?_, nodup_byName config, ?_, ?_, articleGroups_eq config, fun name => group?_eq_lookup,
    claim_articleGroup config⟩
  · rw [hactive]
    refine (forall₂_filterMap_active? hfinite).imp fun entry layout hdescribed => ?_
    obtain ⟨hlayout, -⟩ := Layout.active?_eq_some_iff.mp hdescribed
    exact ⟨hlayout, Layout.name_of_ofValue hlayout, Layout.limit_of_ofValue hlayout⟩
  · rintro before entry behind rfl hentry
    exact ofDocument_of_not_namesActiveLayout h hentry
  · intro name
    rw [lookup_byName]
    exact isSome_byName?_iff
  · intro name layout
    rw [lookup_byName]
    exact byName?_eq_some_iff

/-- Entries of which three name one group: first one in use, then another, then one that is not. The last has no name. -/
def repeatedEntries : List Value :=
  [ .record [("layout_name", .text "ArticleGroup1"), ("active", .bool true), ("layout_limit", .text "4")],
    .record [("layout_name", .text "Highlight1"), ("active", .text "Yes"), ("layout_limit", .int (-2))],
    .record [("layout_name", .text "ArticleGroup1"), ("active", .text "yes"), ("layout_limit", .int 7)],
    .record [("layout_name", .text "ArticleGroup1"), ("active", .bool false), ("layout_limit", .int 1)],
    .record [("active", .bool true)] ]

/-- The layouts of theirs that are in use. -/
def repeatedLayouts : List Layout :=
  [ { name := "ArticleGroup1", limit := .int 4 }, { name := "Highlight1" }, { name := "ArticleGroup1", limit := .int 7 } ]

/-- The group has the layout of the second entry in use, and no name is there that none of them has. -/
theorem indexes_agree_repeatedEntries :
    ofDocument (.list repeatedEntries) = .ok ⟨repeatedLayouts⟩ ∧
    (⟨repeatedLayouts⟩ : LayoutConfig).group? "ArticleGroup1" =
      some { name := "ArticleGroup1", limit := .int 7 } ∧
    ofDocument (.list (repeatedEntries.take 3)) = .ok ⟨repeatedLayouts⟩ ∧
    (⟨repeatedLayouts⟩ : LayoutConfig).group? "ArticleGroup2" = none := by
  have hloads : ofDocument (.list repeatedEntries) = .ok ⟨repeatedLayouts⟩ := by decide +kernel
  obtain ⟨-, hothers, -, hnames, hlast, -, hgroups, -⟩ := indexes_agree hloads
  have hfour : ofDocument (.list (repeatedEntries.take 4)) = .ok ⟨repeatedLayouts⟩ :=
    hothers (repeatedEntries.take 4) (.record [("active", .bool true)]) [] rfl (by decide +kernel)
  obtain ⟨-, hothers', -⟩ := indexes_agree hfour
  refine ⟨hloads, ?_, ?_, ?_⟩
  · rw [hgroups "ArticleGroup1" (by decide)]
    exact (hlast _ _).mpr ⟨repeatedLayouts.take 2, [], rfl, rfl, by simp⟩
  · exact hothers' (repeatedEntries.take 3) _ [] rfl (by decide +kernel)
  · rw [hgroups "ArticleGroup2" (by decide)]
    cases hfound : (⟨repeatedLayouts⟩ : LayoutConfig).byName.lookup "ArticleGroup2" with
    | none => rfl
    | some layout =>
      have hnone : ∀ other ∈ repeatedLayouts, other.name ≠ "ArticleGroup2" := by decide
      obtain ⟨other, hm, hname⟩ := (hnames "ArticleGroup2").mp ⟨layout, hfound⟩
      exact absurd hname (hnone other hm)

end LayoutConfig

end FrontPage
