import FrontPage.ItemSet
import FrontPage.Proofs.Roster.Writing

/-!
# Articles by flag

The group of a flag has exactly the articles that hold it, in order (`ItemSet.group_ofArticles`). For articles of the
roster these are the ones whose rows hold the flag (`Row.contains_heldFlags`), and a highlight layout selects them
(`ItemSet.select_highlight`).
-/

namespace FrontPage

/-! ## Groups -/

/-- Adding an article to a group puts it behind the others there, and leaves the other groups alone. -/
theorem lookup_addToGroup (name other : String) (article : Record) (groups : List (String × List Record)) :
    ((addToGroup name article groups).lookup other).getD [] =
      (groups.lookup other).getD [] ++ if other = name then [article] else [] := by
  induction groups with
  | nil =>
    rw [addToGroup, List.lookup_cons]
    by_cases ho : other = name
    · simp [ho]
    · simp [ho, beq_eq_false_iff_ne.mpr ho]
  | cons entry rest ih =>
    obtain ⟨n, group⟩ := entry
    rw [addToGroup]
    by_cases hn : n = name
    · rw [if_pos hn, List.lookup_cons, List.lookup_cons]
      by_cases ho : other = n
      · simp [ho, hn]
      · have hne : other ≠ name := fun h => ho (h.trans hn.symm)
        simp [beq_eq_false_iff_ne.mpr ho, hne]
    · rw [if_neg hn, List.lookup_cons, List.lookup_cons]
      by_cases ho : other = n
      · simp [ho, hn]
      · simpa [beq_eq_false_iff_ne.mpr ho] using ih

theorem lookup_foldl_addToGroup (other : String) (article : Record) {names : List String} (hnodup : names.Nodup)
    (groups : List (String × List Record)) :
    ((names.foldl (fun groups name => addToGroup name article groups) groups).lookup other).getD [] =
      (groups.lookup other).getD [] ++ if names.contains other then [article] else [] := by
  induction names generalizing groups with
  | nil => simp
  | cons name rest ih =>
    obtain ⟨hname, hrest⟩ := List.nodup_cons.mp hnodup
    rw [List.foldl_cons, ih hrest, lookup_addToGroup, List.append_assoc]
    by_cases ho : other = name
    · subst ho
      simp [hname]
    · simp [ho]

theorem lookup_groupArticle (other : String) {article : Record} (hnodup : (heldFlags article).Nodup)
    (groups : List (String × List Record)) :
    ((groupArticle groups article).lookup other).getD [] =
      (groups.lookup other).getD [] ++ if (heldFlags article).contains other then [article] else [] :=
  lookup_foldl_addToGroup other article hnodup groups

/-- **The group of a flag has the articles that hold it**, in order. -/
theorem ItemSet.group_ofArticles {articles : List Record} (hnodup : ∀ article ∈ articles, (heldFlags article).Nodup)
    (flag : String) :
    (ItemSet.ofArticles articles).group flag = articles.filter fun article => (heldFlags article).contains flag := by
  -- The induction is on the articles; the groups that are there already are any.
  have hfold : ∀ groups, ((articles.foldl groupArticle groups).lookup flag).getD [] =
      (groups.lookup flag).getD [] ++ articles.filter fun article => (heldFlags article).contains flag := by
    induction articles with
    | nil => simp
    | cons article rest ih =>
      intro groups
      rw [List.foldl_cons, ih fun other ho => hnodup other (List.mem_cons_of_mem _ ho),
        lookup_groupArticle flag (hnodup article List.mem_cons_self), List.append_assoc, List.filter_cons]
      split <;> rfl
  exact hfold []

/-! ## Articles of the roster -/

theorem isFlagField_column (flag : Flag) : isFlagField flag.column = true := by
  have h : ∀ flag ∈ Flag.all, isFlagField flag.column = true := by decide +kernel
  exact h flag (Numbered.mem_list flag)

theorem Row.map_fst_record (id : Int) (row : Row) :
    (row.record id).map Prod.fst = idColumn :: Column.all.map Column.name := by
  rw [record, List.map_cons, List.map_map]
  rfl

theorem Row.nodup_heldFlags (id : Int) (row : Row) : (heldFlags (row.record id)).Nodup :=
  (List.filter_sublist.map Prod.fst).nodup (row.map_fst_record id ▸ nodup_columnNames)

/-- An article of the roster holds the flags that its row carries. -/
theorem Row.contains_heldFlags {row : Row} {flags : FlagSet} (h : row.Carries flags) (id : Int) (flag : Flag) :
    (heldFlags (row.record id)).contains flag.column = row.holds flag := by
  have hword : ∀ held, (Value.text (Flag.word held)).isYes = held := by decide +kernel
  rw [h.holds_eq, Bool.eq_iff_iff, List.contains_iff_mem, heldFlags, List.mem_map]
  constructor
  · rintro ⟨⟨name, value⟩, hm, rfl⟩
    obtain ⟨hm, hheld⟩ := List.mem_filter.mp hm
    rcases List.mem_cons.mp hm with he | hm
    · exact absurd (Prod.mk.inj he).1 flag.column_ne_idColumn
    · obtain ⟨column, -, he⟩ := List.mem_map.mp hm
      obtain ⟨hname, hvalue⟩ := Prod.mk.inj he
      have hcolumn : column = .flag flag := Column.name_injective hname
      rw [hcolumn, h flag] at hvalue
      subst hvalue
      rw [Bool.and_eq_true] at hheld
      exact (hword _).symm.trans hheld.2
  · intro hheld
    refine ⟨(flag.column, .text (Flag.word true)), List.mem_filter.mpr ⟨List.mem_cons_of_mem _ ?_, ?_⟩, rfl⟩
    · refine List.mem_map.mpr ⟨.flag flag, Numbered.mem_list _, ?_⟩
      rw [h flag, hheld]
      rfl
    · rw [isFlagField_column, hword]
      rfl

/-- A layout that is named like a highlight selects the group of its flag. -/
theorem ItemSet.select_highlight (items : ItemSet) {layout : Layout} {slot : Fin 9}
    (h : layout.name = (Flag.highlight slot).layoutName) :
    items.select layout = items.group (Flag.highlight slot).column := by
  have hname : ∀ slot : Fin 9, Text.begins "highlight" (Text.lower (Flag.highlight slot).layoutName) = true ∧
      Text.lower (Flag.highlight slot).layoutName ++ "_flag" = (Flag.highlight slot).column := by decide +kernel
  rw [select, Layout.flagColumn?, Layout.isHighlight, h, (hname slot).1, if_pos rfl, (hname slot).2]

end FrontPage
