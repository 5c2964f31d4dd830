import FrontPage.Proofs.ItemSet
import FrontPage.Proofs.Text.Casing
import FrontPage.Proofs.Text.Trimming

/-!
# What layouts select

Articles are grouped once by all flags, and a layout selects one group or all articles. No group is empty and no two
have one name (`FlagIndex`, `flagIndex_groupByFlag`), and the group of a flag has the articles that say yes for it, in
whatever letter case and with whatever blanks around (`SaysYes`). So what a layout selects is all articles, or those
that pass a test, in their order (`groupByFlag_filters`).
-/

namespace FrontPage

/-! ## Saying yes -/

/-- A value says yes: it is a text of the letters of yes in any case, with blanks around them. -/
def SaysYes (value : Value) : Prop :=
  ∃ lead word trail, value = .text (String.ofList (lead ++ (word ++ trail))) ∧
    (∀ c ∈ lead, Text.isBlank c = true) ∧ (∀ c ∈ trail, Text.isBlank c = true) ∧
    word.map Char.toLower = "yes".toList

/-- Blanks are no letters. -/
theorem Text.toLower_of_isBlank {c : Char} (h : Text.isBlank c = true) : c.toLower = c := by
  have hall : ∀ n ∈ Text.blankCodes, (Char.ofNat n).toLower = Char.ofNat n := by decide +kernel
  have hc := hall c.toNat (Text.mem_blankCodes h)
  rwa [Char.ofNat_toNat] at hc

/-- What is a word of letters in some case has no blanks at its ends. -/
theorem Text.firm_of_map_toLower {word letters : List Char} (h : word.map Char.toLower = letters)
    (hletters : letters.any Text.isBlank = false) : Text.Firm word := by
  have hword : ∀ c ∈ word, Text.isBlank c = false := by
    intro c hc
    rw [Bool.eq_false_iff]
    intro hblank
    have hlower := List.any_eq_false.mp hletters _ (h ▸ List.mem_map_of_mem hc)
    rw [Text.toLower_of_isBlank hblank] at hlower
    exact hlower hblank
  refine ⟨fun c hc => hword c (List.mem_of_mem_head? hc), fun c hc => hword c ?_⟩
  exact List.mem_reverse.mp (List.mem_of_mem_head? hc)

/-- The test of flags is passed by what says yes. -/
theorem isYes_iff_saysYes {value : Value} : value.isYes = true ↔ SaysYes value := by
  have hyes : Text.isUnambiguous "yes".toList = true := by decide +kernel
  have hlower (word : List Char) : Text.lower (String.ofList word) = "yes" ↔ word.map Char.toLower = "yes".toList := by
    rw [Text.lower, String.toList_ofList, ← String.toList_inj, String.toList_ofList]
    exact Text.lowerAfter_eq_iff hyes false word
  constructor
  · intro h
    cases value with
    | text s =>
      obtain ⟨lead, trail, hlead, htrail, htext⟩ := Text.exists_trim s.toList
      refine ⟨lead, Text.trim s.toList, trail, ?_, hlead, htrail, (hlower _).mp (beq_iff_eq.mp h)⟩
      rw [← htext, String.ofList_toList]
    | _ => cases h
  · rintro ⟨lead, word, trail, rfl, hlead, htrail, hword⟩
    have hfirm := Text.firm_of_map_toLower hword (by decide)
    refine beq_iff_eq.mpr ?_
    rw [String.toList_ofList, Text.trim_append hlead htrail hfirm]
    exact (hlower word).mpr hword

instance : DecidablePred SaysYes := fun _ => decidable_of_iff _ isYes_iff_saysYes

/-- An article whose fields have different names holds the flags for which it says yes. -/
theorem contains_heldFlags {article : Record} (hnodup : (article.map Prod.fst).Nodup) {flag : String}
    (hflag : isFlagField flag = true) :
    (heldFlags article).contains flag = decide (SaysYes (Record.get article flag)) := by
  rw [Bool.eq_iff_iff, List.contains_iff_mem, decide_eq_true_iff, ← isYes_iff_saysYes, heldFlags, List.mem_map]
  constructor
  · rintro ⟨⟨name, value⟩, hm, rfl⟩
    obtain ⟨hm, hheld⟩ := List.mem_filter.mp hm
    rw [Record.get, Record.get?_of_mem hnodup hm]
    exact (Bool.and_eq_true_iff.mp hheld).2
  · intro hyes
    cases hfound : Record.get? article flag with
    | none =>
      rw [Record.get, hfound] at hyes
      cases hyes
    | some value =>
      rw [Record.get, hfound] at hyes
      refine ⟨(flag, value), List.mem_filter.mpr ⟨Record.mem_of_get? hfound, ?_⟩, rfl⟩
      rw [hflag]
      exact hyes

/-! ## Groups -/

/-- Groups of articles by flags: each has the name of a flag that no other has, and articles in it. -/
structure FlagIndex (groups : List (String × List Record)) : Prop where
  isFlagField : ∀ entry ∈ groups, isFlagField entry.1 = true
  ne_nil : ∀ entry ∈ groups, entry.2 ≠ []
  nodup : (groups.map Prod.fst).Nodup

theorem flagIndex_nil : FlagIndex [] := ⟨nofun, nofun, List.nodup_nil⟩

theorem flagIndex_cons_iff {name : String} {group : List Record} {groups : List (String × List Record)} :
    FlagIndex ((name, group) :: groups) ↔
      FrontPage.isFlagField name = true ∧ group ≠ [] ∧ name ∉ groups.map Prod.fst ∧ FlagIndex groups := by
  constructor
  · rintro ⟨hflags, hgroups, hnodup⟩
    obtain ⟨hflag, hflags⟩ := List.forall_mem_cons.mp hflags
    obtain ⟨hgroup, hgroups⟩ := List.forall_mem_cons.mp hgroups
    obtain ⟨hname, hnodup⟩ := List.nodup_cons.mp hnodup
    exact ⟨hflag, hgroup, hname, hflags, hgroups, hnodup⟩
  · rintro ⟨hflag, hgroup, hname, hflags, hgroups, hnodup⟩
    exact ⟨List.forall_mem_cons.mpr ⟨hflag, hflags⟩, List.forall_mem_cons.mpr ⟨hgroup, hgroups⟩,
      List.nodup_cons.mpr ⟨hname, hnodup⟩⟩

/-- Adding an article to a group gives no other name to a group. -/
theorem mem_names_addToGroup {name other : String} {article : Record} {groups : List (String × List Record)}
    (h : other ∈ (addToGroup name article groups).map Prod.fst) : other = name ∨ other ∈ groups.map Prod.fst := by
  induction groups with
  | nil => exact .inl (List.mem_singleton.mp h)
  | cons entry rest ih =>
    obtain ⟨n, group⟩ := entry
    rw [addToGroup] at h
    split at h
    · exact .inr h
    · rcases List.mem_cons.mp h with rfl | h
      · exact .inr List.mem_cons_self
      · exact (ih h).imp_right (List.mem_cons_of_mem _)

/-- **Adding an article to the group of a flag** keeps the index. -/
theorem FlagIndex.addToGroup {groups : List (String × List Record)} (h : FlagIndex groups) {name : String}
    (hname : FrontPage.isFlagField name = true) (article : Record) :
    FlagIndex (FrontPage.addToGroup name article groups) := by
  induction groups with
  | nil => exact flagIndex_cons_iff.mpr ⟨hname, List.cons_ne_nil _ _, List.not_mem_nil, h⟩
  | cons entry rest ih =>
    obtain ⟨n, group⟩ := entry
    obtain ⟨hn, hgroup, hnotMem, hrest⟩ := flagIndex_cons_iff.mp h
    rw [FrontPage.addToGroup]
    split
    · exact flagIndex_cons_iff.mpr ⟨hn, List.append_ne_nil_of_right_ne_nil _ (List.cons_ne_nil _ _), hnotMem, hrest⟩
    · next hne =>
      refine flagIndex_cons_iff.mpr ⟨hn, hgroup, fun hm => ?_, ih hrest⟩
      exact (mem_names_addToGroup hm).elim hne hnotMem

theorem FlagIndex.groupArticle {groups : List (String × List Record)} (h : FlagIndex groups) (article : Record) :
    FlagIndex (FrontPage.groupArticle groups article) := by
  have hflags : ∀ name ∈ heldFlags article, FrontPage.isFlagField name = true := by
    intro name hm
    obtain ⟨field, hfield, rfl⟩ := List.mem_map.mp hm
    exact (Bool.and_eq_true_iff.mp (List.mem_filter.mp hfield).2).1
  rw [FrontPage.groupArticle]
  generalize heldFlags article = names at hflags
  induction names generalizing groups with
  | nil => exact h
  | cons name names ih =>
    exact ih (h.addToGroup (hflags name List.mem_cons_self) article) fun other ho =>
      hflags other (List.mem_cons_of_mem _ ho)

/-- Articles are grouped into an index. -/
theorem flagIndex_groupByFlag (articles : List Record) : FlagIndex (groupByFlag articles) := by
  have hfold : ∀ groups, FlagIndex groups → FlagIndex (articles.foldl groupArticle groups) := by
    induction articles with
    | nil => exact fun _ h => h
    | cons article rest ih => exact fun groups h => ih _ (h.groupArticle article)
  exact hfold [] flagIndex_nil

/-! ## Layouts -/

/-- A layout is one of a highlight if its name begins with that word in any letter case. -/
theorem Layout.isHighlight_iff {layout : Layout} :
    layout.isHighlight = true ↔ (layout.name.toList.take 9).map Char.toLower = "highlight".toList := by
  have hword : Text.isUnambiguous "highlight".toList = true := by decide +kernel
  have hlower : (Text.lower layout.name).toList = Text.lowerAfter false layout.name.toList := String.toList_ofList
  rw [isHighlight, Text.begins, List.isPrefixOf_iff_prefix, hlower]
  exact Text.prefix_lowerAfter_iff hword false layout.name.toList

theorem isFlagField_append (name : String) : isFlagField (name ++ "_flag") = true := by
  rw [isFlagField, Text.ends, List.isSuffixOf_iff_suffix, String.toList_append]
  exact List.suffix_append _ _

/-- **The groups are what filtering gives.** The group of a flag has the articles that say yes for it, in their order.
There is no empty group, none of what is no flag, and no second one of a flag. So a layout that is named like a
highlight selects the articles that say yes for the flag of its name in small letters, and any other layout all
articles. -/
theorem groupByFlag_filters {articles : List Record} (hnames : ∀ article ∈ articles, (article.map Prod.fst).Nodup) :
    (∀ flag, isFlagField flag = true → ((groupByFlag articles).lookup flag).getD [] =
      articles.filter fun article => SaysYes (Record.get article flag)) ∧
    (∀ entry ∈ groupByFlag articles, isFlagField entry.1 = true ∧ entry.2 ≠ []) ∧
    ((groupByFlag articles).map Prod.fst).Nodup ∧
    ∀ layout : Layout, (ItemSet.ofArticles articles).select layout =
      if (layout.name.toList.take 9).map Char.toLower = "highlight".toList then
        articles.filter fun article => SaysYes (Record.get article (Text.lower layout.name ++ "_flag"))
      else articles := by
  have hheld : ∀ article ∈ articles, (heldFlags article).Nodup := fun article hm =>
    (List.filter_sublist.map Prod.fst).nodup (hnames article hm)
  have hgroup : ∀ flag, isFlagField flag = true → (ItemSet.ofArticles articles).group flag =
      articles.filter fun article => SaysYes (Record.get article flag) := by
    intro flag hflag
    rw [ItemSet.group_ofArticles hheld]
    exact List.filter_congr fun article hm => contains_heldFlags (hnames article hm) hflag
  have hindex := flagIndex_groupByFlag articles
  refine ⟨hgroup, fun entry hm => ⟨hindex.isFlagField entry hm, hindex.ne_nil entry hm⟩, hindex.nodup, ?_⟩
  intro layout
  rw [ItemSet.select, Layout.flagColumn?]
  by_cases hlayout : (layout.name.toList.take 9).map Char.toLower = "highlight".toList
  · rw [if_pos hlayout, if_pos (Layout.isHighlight_iff.mpr hlayout)]
    exact hgroup _ (isFlagField_append _)
  · rw [if_neg hlayout, if_neg (mt Layout.isHighlight_iff.mp hlayout)]
    rfl

/-- Articles that spell a flag in different ways, or have nothing there. -/
def spelledArticles : List Record :=
  [[("article_id", .int 1), ("highlight1_flag", .text " yEs\n"), ("articlegroup2_flag", .text "Yes")],
   [("article_id", .int 2), ("articlegroup2_flag", .null)],
   [("highlight1_flag", .bool true), ("article_id", .int 3)],
   [("article_id", .int 4), ("highlight1_flag", .text "YES")]]

/-- A layout in capitals selects the two articles that say yes for its flag, and no article says so for another flag. -/
theorem groupByFlag_filters_spelledArticles :
    (∀ article ∈ spelledArticles, (article.map Prod.fst).Nodup) ∧
      ((ItemSet.ofArticles spelledArticles).select { name := "HIGHLIGHT1" }).map
        (fun article => (Record.get article "article_id").toText) = ["1", "4"] ∧
      ((groupByFlag spelledArticles).lookup "highlight2_flag").getD [] = [] := by
  have hnames : ∀ article ∈ spelledArticles, (article.map Prod.fst).Nodup := by decide +kernel
  obtain ⟨hgroup, -, -, hselect⟩ := groupByFlag_filters hnames
  refine ⟨hnames, ?_, ?_⟩
  · rw [hselect]
    decide +kernel
  · rw [hgroup _ (by decide +kernel), List.filter_eq_nil_iff]
    decide +kernel

end FrontPage
