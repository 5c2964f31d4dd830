import FrontPage.Proofs.ItemSet
import FrontPage.Proofs.Pipeline.Events
import FrontPage.Proofs.Template.WholePage

/-!
# Admitted articles are shown

Classification admits no more articles to a highlight than the limit of its layout, and rendering shows no more than the
limit. As both go by the same limit, the limit leaves no admitted article out (`admitted_articles_shown`), as long as no
condition of the page sets another one. Such a condition may be part of the display name
(`highlight_cut_by_displayName`).
-/

namespace FrontPage

/-! ## Highlights -/

/-- The active articles that hold a flag, with their rows. -/
def Table.activeHolders (table : Table) (flag : Flag) : List (Int × Row) :=
  table.entries.filter fun e => e.2.get .active == .text "Yes" && e.2.holds flag

/-- No more articles are active and hold a flag than hold it. -/
theorem Table.length_activeHolders_le (table : Table) (flag : Flag) :
    (table.activeHolders flag).length ≤ (table.holders flag).card := by
  have hnodup : ((table.entries.filter fun e => e.2.holds flag).map Prod.fst).Nodup :=
    (List.filter_sublist.map Prod.fst).nodup table.nodup_ids
  rw [holders, List.toFinset_card_of_nodup hnodup, List.length_map, activeHolders, ← List.filter_filter]
  exact List.length_filter_le _ _

/-- The layout is the only active one of a highlight, and shows all its articles on one page: the articles are sorted by
what it says, and repeated with a block that sets no limit. -/
structure LayoutConfig.Highlights (config : LayoutConfig) (slot : Fin 9) (layout : Layout)
    (before block behind : List Char) : Prop where
  only : (config.active.filter fun other => other.name == (Flag.highlight slot).layoutName) = [layout]
  sorted : ∃ spec, layout.sortSpec = .ok spec
  page : ∃ template, layout.template = .ok template ∧
    Skeleton.read template = .ok (.repeating before block behind)
  unnumbered : Unnumbered block

/-! ## Articles of a highlight -/

section

variable {table : Table} {rows : List (Int × Row)}

/-- Of articles of the roster, in any order, the group of a flag has those whose rows hold it. -/
theorem ItemSet.group_rows (flag : Flag)
    (hcarries : ∀ id row, table.find? id = some row → ∃ flags : FlagSet, row.Carries flags)
    (hrows : rows.Perm (table.entries.filter fun e => e.2.get .active == .text "Yes")) :
    ((ItemSet.ofArticles (rows.map fun e => e.2.record e.1)).group flag.column).Perm
      ((table.activeHolders flag).map fun e => e.2.record e.1) := by
  have hnodup : ∀ article ∈ rows.map (fun e => e.2.record e.1), (heldFlags article).Nodup := by
    intro article hm
    obtain ⟨e, -, rfl⟩ := List.mem_map.mp hm
    exact Row.nodup_heldFlags e.1 e.2
  have hheld : ∀ e ∈ rows, (heldFlags (e.2.record e.1)).contains flag.column = e.2.holds flag := by
    intro e hm
    have hentry := List.mem_of_mem_filter (hrows.mem_iff.mp hm)
    obtain ⟨flags, hflags⟩ := hcarries e.1 e.2 (Table.find?_eq_some_iff.mpr hentry)
    exact Row.contains_heldFlags hflags e.1 flag
  have hgroup : (rows.map fun e => e.2.record e.1).filter (fun article => (heldFlags article).contains flag.column) =
      (rows.filter fun e => e.2.holds flag).map fun e => e.2.record e.1 := by
    rw [List.filter_map]
    exact congrArg (List.map _) (List.filter_congr hheld)
  rw [ItemSet.group_ofArticles hnodup, hgroup]
  refine List.Perm.map _ ((hrows.filter _).trans ?_)
  rw [List.filter_filter, Table.activeHolders]
  exact List.Perm.of_eq (List.filter_congr fun e _ => Bool.and_comm _ _)

end

/-- A highlight has no name that the first letters of menus reserve. -/
theorem isReserved_highlight {layout : Layout} {slot : Fin 9} (h : layout.name = (Flag.highlight slot).layoutName) :
    layout.isReserved "menu" = false := by
  have hname : ∀ slot : Fin 9,
      Text.begins (Text.lower "menu") (Text.lower (Flag.highlight slot).layoutName) = false := by decide +kernel
  rw [Layout.isReserved, h, hname]

namespace LayoutConfig.Highlights

variable {config : LayoutConfig} {slot : Fin 9} {layout : Layout} {before block behind : List Char}

theorem mem (h : config.Highlights slot layout before block behind) :
    layout ∈ config.active ∧ layout.name = (Flag.highlight slot).layoutName := by
  have hm : layout ∈ config.active.filter fun other => other.name == (Flag.highlight slot).layoutName := by
    rw [h.only]
    exact List.mem_singleton_self _
  exact ⟨(List.mem_filter.mp hm).1, eq_of_beq (List.mem_filter.mp hm).2⟩

/-- The layout is the one whose limit classifications go by. -/
theorem lastNamed (h : config.Highlights slot layout before block behind) :
    LastNamed config.active (Flag.highlight slot).layoutName layout := by
  rw [← byName?_eq_some_iff, byName?, lastNamed?, ← List.head?_filter, List.filter_reverse, h.only]
  rfl

/-- The page of the layout has all articles of its group if they are no more than its limit. -/
theorem renderLayout_eq (h : config.Highlights slot layout before block behind) {limit : Nat}
    (hlimit : layout.limit = .int limit) {file : String} (hfile : layout.file = .text file)
    {articles records : List Record}
    (hgroup : ((ItemSet.ofArticles articles).group (Flag.highlight slot).column).Perm records)
    (hroom : limit = 0 ∨ records.length ≤ limit) :
    ∃ shown : List Record, ∃ result, shown.Perm records ∧
      renderLayout (.text "menu") (.ofArticles articles) layout =
        .ok (result, some (artifactOf layout (fileExtension file) (layout.wholePage before block behind shown)).2) ∧
      result.status = .added ∧ result.articleCount = records.length := by
  obtain ⟨spec, hsorted⟩ := h.sorted
  obtain ⟨template, htemplate, hskeleton⟩ := h.page
  have hshown : (sortRecords spec ((ItemSet.ofArticles articles).select layout)).Perm records := by
    rw [ItemSet.select_highlight _ h.mem.2]
    exact (List.mergeSort_perm _ _).trans hgroup
  rw [← hshown.length_eq] at hroom ⊢
  have hpage : pageOf (.ofArticles articles) layout =
      .ok (layout.wholePage before block behind (sortRecords spec ((ItemSet.ofArticles articles).select layout))) := by
    rw [pageOf, hsorted]
    exact renderPage_of_unnumbered htemplate hskeleton h.unnumbered hlimit hroom
  exact ⟨_, _, hshown, renderLayout_of_page (isReserved_highlight h.mem.2)
    (layout.body_holds_of_repeating htemplate hskeleton) hfile hpage, rfl, rfl⟩

end LayoutConfig.Highlights

namespace Pipeline

open FrontPage.Action

variable {document : Value} {config : LayoutConfig}

/-- **Every admitted article is shown.** Let a pipeline that is in order, with an empty table, serve a configuration in
which a single active layout belongs to a highlight, and let the block that the layout repeats for every article hold no
condition with a number, the display name being filled in already. However many articles are classified, one after the
other, and whatever becomes of them: when the caches are cleared and the layouts rendered, the layout is added with as
many articles as are active and hold the highlight, and its page has a block for each of them. -/
theorem admitted_articles_shown {start : Pipeline} (horder : start.InOrder) (hserves : start.Serves document config 3)
    (hempty : start.roster.table = some .empty) (hfiles : ∀ other ∈ config.active, ∃ file, other.file = .text file)
    {slot : Fin 9} {layout : Layout} {before block behind : List Char}
    (hlayout : config.Highlights slot layout before block behind) (events : List ArticleEvent)
    (hids : ∀ event ∈ events, ∃ id, Record.get event.article idColumn = .int id) :
    ∃ table articles rendered result file, ∃ shown : List Record, ∃ report after,
      (events.foldl handled start).roster.table = some table ∧
      (events.foldl handled start).roster.scan = .ok articles ∧
      Gives (do let _ ← clearCaches; renderReport) (events.foldl handled start) report after ∧
      report.results = rendered.map (·.1) ∧
      Rendered (.text "menu") (.ofArticles articles) config.active rendered ∧
      (rendered.filter fun r => r.1.layoutName == (Flag.highlight slot).layoutName) =
        [(result, some (artifactOf layout (fileExtension file) (layout.wholePage before block behind shown)).2)] ∧
      result.status = .added ∧
      result.articleCount = (table.activeHolders (.highlight slot)).length ∧
      shown.Perm ((table.activeHolders (.highlight slot)).map fun e => e.2.record e.1) := by
  obtain ⟨limit, hlimit⟩ := LayoutConfig.limit_of_mem_ofDocument hserves.loads hlayout.mem.1
  obtain ⟨file, hfile⟩ := hfiles layout hlayout.mem.1
  have hready := (Ready.mk horder hserves hempty).foldl_handled events
  have hadmits : (tableAfter config events .empty).Admits (.highlight slot) limit :=
    admits_tableAfter ⟨layout, hlayout.lastNamed, hlimit⟩ hids (Table.admits_empty _ _)
  have hscan := hready.scan_eq
  obtain ⟨rendered, report, after, hrendered, hgives, hresults⟩ := hready.gives_renderReport hfiles hscan
  have hgroup := ItemSet.group_rows (.highlight slot) hadmits.carries (List.mergeSort_perm _ Roster.scanBefore)
  -- The limit that the run of classifications kept is the limit that the page goes by.
  have hroom : limit = 0 ∨
      (((tableAfter config events .empty).activeHolders (.highlight slot)).map
        fun e => e.2.record e.1).length ≤ limit := by
    rw [List.length_map]
    exact hadmits.fits.imp_right (Table.length_activeHolders_le _ _).trans
  obtain ⟨shown, result, hshown, hlayoutRendered, hstatus, hcount⟩ :=
    hlayout.renderLayout_eq hlimit hfile hgroup hroom
  have hnamed := hrendered.filter_layoutName (Flag.highlight slot).layoutName
  have hsingle : (rendered.filter fun r => r.1.layoutName == (Flag.highlight slot).layoutName) =
      [(result, some (artifactOf layout (fileExtension file) (layout.wholePage before block behind shown)).2)] := by
    rw [hlayout.only] at hnamed
    generalize (rendered.filter fun r => r.1.layoutName == (Flag.highlight slot).layoutName) = named at hnamed ⊢
    cases hnamed with
    | cons hr hrest =>
      cases hrest
      rw [Except.ok.inj (hr.symm.trans hlayoutRendered)]
  rw [List.length_map] at hcount
  exact ⟨_, _, rendered, result, file, shown, report, after, hready.table_eq, hscan, hgives, hresults, hrendered,
    hsingle, hstatus, hcount, hshown⟩

/-- A layout document with one highlight that has room for two articles. -/
def newsText : String :=
  "[\x7b\"layout_name\": \"Highlight1\", \"active\": true, \"layout_limit\": 2, \"layout_order\": \"heading ASC\", " ++
    "\"layout_body\": \"\x7b\x7bRepeatBegin\x7d\x7d\x7b\x7bIf heading\x7d\x7d\x7b\x7bheading\x7d\x7d" ++
    "\x7b\x7bEndIf\x7d\x7d;\x7b\x7bRepeatEnd\x7d\x7d\"\x7d]"

/-- The block of the highlight: the heading if there is one. -/
def newsBlock : List Char := "\x7b\x7bIf heading\x7d\x7d\x7b\x7bheading\x7d\x7d\x7b\x7bEndIf\x7d\x7d;".toList

/-- The highlight. -/
def newsLayout : Layout where
  name := "Highlight1"
  limit := .int 2
  order := .text "heading ASC"
  body := .text (String.ofList (repeatBeginTag ++ newsBlock ++ repeatEndTag))

/-- The document. -/
def newsDocument : Value :=
  .list [.record [("layout_name", .text "Highlight1"), ("active", .bool true), ("layout_limit", .int 2),
    ("layout_order", .text "heading ASC"), ("layout_body", newsLayout.body)]]

/-- Something happens to an article that is to have the highlight. -/
def newsEvent (id : Int) (operation : Operation) : ArticleEvent where
  article := [("article_id", .int id), ("highlight1_flag", .text "Yes"), ("heading", .text "News")]
  operation := operation
  now := .int 0
  time := clockStart

/-- Two articles take the room; a third one is admitted when the first was deleted. -/
def newsEvents : List ArticleEvent :=
  [newsEvent 1 .create, newsEvent 2 .create, newsEvent 3 .create, newsEvent 1 .delete, newsEvent 3 .update]

set_option maxRecDepth 8000 in
theorem ready_newsText : (ofDocument newsText).Ready newsDocument ⟨[newsLayout]⟩ .empty :=
  ready_ofDocument ofList_append_append (by decide +kernel) (by decide +kernel)

theorem highlights_newsLayout : LayoutConfig.Highlights ⟨[newsLayout]⟩ 0 newsLayout [] newsBlock [] where
  only := rfl
  sorted := ⟨[⟨"heading", .ascending⟩], by decide +kernel⟩
  page := ⟨repeatBeginTag ++ newsBlock ++ repeatEndTag, by decide +kernel, by decide +kernel⟩
  unnumbered := by decide +kernel

theorem admitted_articles_shown_newsEvents :
    ∃ result report after, Gives (do let _ ← clearCaches; renderReport) (newsEvents.foldl handled (ofDocument newsText))
      report after ∧ result ∈ report.results ∧ result.status = .added ∧ result.articleCount = 2 := by
  have hready := ready_newsText
  have hids : ∀ event ∈ newsEvents, ∃ id, Record.get event.article idColumn = .int id := by
    simp only [newsEvents, List.forall_mem_cons]
    exact ⟨⟨1, rfl⟩, ⟨2, rfl⟩, ⟨3, rfl⟩, ⟨1, rfl⟩, ⟨3, rfl⟩, nofun⟩
  obtain ⟨table, articles, rendered, result, file, shown, report, after, htable, -, hgives, hresults, -, hnamed, hadded,
    hcount, -⟩ := admitted_articles_shown hready.inOrder hready.serves hready.table_eq
      (List.forall_mem_singleton.mpr ⟨_, rfl⟩) highlights_newsLayout newsEvents hids
  have htableAfter := Option.some.inj (htable.symm.trans (hready.foldl_handled newsEvents).table_eq)
  refine ⟨result, report, after, hgives, ?_, hadded, ?_⟩
  · rw [hresults]
    have hm := List.mem_of_mem_filter (hnamed.symm ▸ List.mem_singleton_self _)
    exact List.mem_map.mpr ⟨_, hm, rfl⟩
  · rw [hcount, htableAfter]
    decide +kernel

/-- A layout document with one highlight whose display name is part of a template. -/
def cutText : String :=
  "[\x7b\"layout_name\": \"Highlight1\", \"active\": true, " ++
    "\"layout_display_name\": \"\x7b\x7bIf Counter = 1\x7d\x7dx\x7b\x7bEndIf\x7d\x7d\", " ++
    "\"layout_body\": \"\x7b\x7bRepeatBegin\x7d\x7d\x7b\x7bLayoutDisplayName\x7d\x7d\x7b\x7bRepeatEnd\x7d\x7d\"\x7d]"

/-- The highlight. -/
def cutLayout : Layout where
  name := "Highlight1"
  displayName := .text "\x7b\x7bIf Counter = 1\x7d\x7dx\x7b\x7bEndIf\x7d\x7d"
  body := .text (String.ofList (repeatBeginTag ++ displayNameTag ++ repeatEndTag))

/-- The document. -/
def cutDocument : Value :=
  .list [.record [("layout_name", .text "Highlight1"), ("active", .bool true),
    ("layout_display_name", cutLayout.displayName), ("layout_body", cutLayout.body)]]

/-- Two articles are admitted. -/
def cutEvents : List ArticleEvent := [newsEvent 1 .create, newsEvent 2 .create]

set_option maxRecDepth 8000 in
theorem ready_cutText : (ofDocument cutText).Ready cutDocument ⟨[cutLayout]⟩ .empty :=
  ready_ofDocument ofList_append_append (by decide +kernel) (by decide +kernel)

/-- The articles that are in the roster then. -/
def cutArticles : List Record :=
  ((tableAfter ⟨[cutLayout]⟩ cutEvents .empty).entries.filter fun e => e.2.get .active == .text "Yes").map
    fun e => e.2.record e.1

/-- They are scanned in the order of the table, and shown in that order. -/
theorem pageOf_cutLayout : ∃ page, pageOf (.ofArticles cutArticles) cutLayout = .ok page ∧ page.articleCount = 1 := by
  have hspec : cutLayout.sortSpec = .ok [] := by decide +kernel
  have hsorted (records : List Record) : sortRecords [] records = records :=
    List.mergeSort_of_pairwise (List.pairwise_of_forall fun _ _ => rfl)
  have hcount : (renderPage cutLayout ((ItemSet.ofArticles cutArticles).select cutLayout)).toOption.map
    Page.articleCount = some 1 := by decide +kernel
  obtain ⟨page, hpage, hcount⟩ := Option.map_eq_some_iff.mp hcount
  refine ⟨page, ?_, hcount⟩
  rw [pageOf, hspec]
  show renderPage cutLayout (sortRecords [] _) = _
  rw [hsorted]
  cases hrendered : renderPage cutLayout ((ItemSet.ofArticles cutArticles).select cutLayout) with
  | error cause =>
    rw [hrendered] at hpage
    cases hpage
  | ok rendered =>
    rw [hrendered] at hpage
    cases hpage
    rfl

/-- A display name with a condition cuts the page of a highlight off, though no condition of the body itself holds a
number: of two articles that are admitted without a limit only one is shown. -/
theorem highlight_cut_by_displayName :
    (ofDocument cutText).Ready cutDocument ⟨[cutLayout]⟩ .empty ∧
    cutLayout.name = (Flag.highlight 0).layoutName ∧ cutLayout.sortSpec = .ok [] ∧
    cutLayout.body = .text (String.ofList (repeatBeginTag ++ displayNameTag ++ repeatEndTag)) ∧
    Skeleton.read (repeatBeginTag ++ displayNameTag ++ repeatEndTag) = .ok (.repeating [] displayNameTag []) ∧
    Unnumbered displayNameTag ∧
    ∃ table result report after, (cutEvents.foldl handled (ofDocument cutText)).roster.table = some table ∧
      Gives (do let _ ← clearCaches; renderReport) (cutEvents.foldl handled (ofDocument cutText)) report after ∧
      report.results = [result] ∧ result.layoutName = cutLayout.name ∧ result.status = .added ∧
      result.articleCount = 1 ∧ (table.activeHolders (.highlight 0)).length = 2 := by
  have hname : cutLayout.name = (Flag.highlight 0).layoutName := by decide +kernel
  refine ⟨ready_cutText, hname, by decide +kernel, rfl, by decide +kernel, by decide +kernel, ?_⟩
  have hready := ready_cutText.foldl_handled cutEvents
  have hscan := hready.scan_eq
  rw [List.mergeSort_of_pairwise (by decide +kernel)] at hscan
  obtain ⟨page, hpage, hcount⟩ := pageOf_cutLayout
  obtain ⟨rendered, report, after, hrendered, hgives, hresults⟩ :=
    hready.gives_renderReport (List.forall_mem_singleton.mpr ⟨_, rfl⟩) hscan
  cases hrendered with
  | @cons _ r _ _ hr hrest =>
    cases hrest
    rw [← cutArticles, renderLayout_of_page (isReserved_highlight hname) (by decide +kernel) rfl hpage] at hr
    cases hr
    exact ⟨_, _, report, after, hready.table_eq, hgives, hresults, rfl, rfl, hcount, by decide +kernel⟩

end Pipeline

end FrontPage
