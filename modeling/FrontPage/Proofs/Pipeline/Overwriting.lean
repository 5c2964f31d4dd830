import FrontPage.Proofs.Pipeline.Isolation
import FrontPage.Proofs.Pipeline.Publishing

/-!
# What a pass of rendering overwrites

A pass publishes what the active layouts add (`Layout.output?`): the scripts of all of them in the combined file, and
then each page in the file of its own layout, unless that is spelled like the combined file. A file of another spelling
may still lead to the path of the combined file, or to that of a document that the pipeline reads.
`renderReport_overwrites` says for every path when a pass leaves there what it should: nothing else than that what is
published last at the path is right. Two documents show what happens otherwise (`renderReport_overwritten`).
-/

namespace FrontPage

open Pipeline

/-! ## What layouts add -/

/-- What a layout adds to a pass: its page in its file, as a script if the file holds scripts. A layout that is reserved,
has no body or no page adds nothing. -/
def Layout.output? (layout : Layout) (start : String) (items : ItemSet) : Option Artifact :=
  if layout.isReserved start || !layout.body.holds then none
  else
    match pageOf items layout, layout.file with
    | .ok page, .text name =>
      some ⟨.text name, fileExtension name,
        if isScriptExtension (fileExtension name) then wrapScript (scriptFunctionName layout.name) page.html
        else page.html⟩
    | _, _ => none

/-- What the active layouts add, one after the other. -/
def LayoutConfig.outputs (config : LayoutConfig) (start : String) (items : ItemSet) : List Artifact :=
  config.active.filterMap fun layout => layout.output? start items

/-- The scripts among artifacts. -/
def scriptsOf (artifacts : List Artifact) : List String :=
  (artifacts.filter fun artifact => isScriptExtension artifact.extension).map (·.content)

/-- A layout is reported as added exactly if it adds something, and that is its artifact. -/
theorem renderLayout_output? {layout : Layout} {start name : String} {items : ItemSet}
    {rendered : RenderResult × Option Artifact} (hfile : layout.file = .text name)
    (h : renderLayout (.text start) items layout = .ok rendered) :
    rendered.2 = layout.output? start items ∧
      (rendered.1.status = .added ↔ (layout.output? start items).isSome = true) := by
  unfold Layout.output?
  cases hreserved : layout.isReserved start with
  | true =>
    rw [renderLayout, if_pos hreserved] at h
    cases h
    simp [skipped]
  | false =>
    cases hbody : layout.body.holds with
    | false =>
      rw [renderLayout, if_neg (by simp [hreserved]), if_pos (by simp [hbody])] at h
      cases h
      simp [skipped]
    | true =>
      cases hpage : pageOf items layout with
      | error cause =>
        rw [renderLayout_of_pageError hreserved hbody hpage] at h
        cases h
        simp
      | ok page =>
        rw [renderLayout_of_page hreserved hbody hfile hpage] at h
        cases h
        rw [hfile]
        cases hscript : isScriptExtension (fileExtension name) <;> simp [artifactOf, hscript, hfile]

/-- The artifacts of a pass are what the layouts add. -/
theorem Rendered.filterMap_eq {start : String} {items : ItemSet} {layouts : List Layout}
    {rendered : List (RenderResult × Option Artifact)} (h : Rendered (.text start) items layouts rendered)
    (hfiles : ∀ layout ∈ layouts, ∃ name, layout.file = .text name) :
    rendered.filterMap (·.2) = layouts.filterMap fun layout => layout.output? start items := by
  induction h with
  | nil => rfl
  | @cons layout first layouts rest hfirst hrest ih =>
    obtain ⟨name, hfile⟩ := hfiles layout List.mem_cons_self
    have hothers := ih fun other hother => hfiles other (List.mem_cons_of_mem _ hother)
    rw [List.filterMap_cons, List.filterMap_cons, (renderLayout_output? hfile hfirst).1, hothers]

/-- Of every layout it is reported whether it was added. -/
theorem Rendered.statuses {start : String} {items : ItemSet} {layouts : List Layout}
    {rendered : List (RenderResult × Option Artifact)} (h : Rendered (.text start) items layouts rendered)
    (hfiles : ∀ layout ∈ layouts, ∃ name, layout.file = .text name) :
    List.Forall₂ (fun layout result => result.layoutName = layout.name ∧
      (result.status = .added ↔ (layout.output? start items).isSome = true)) layouts (rendered.map (·.1)) := by
  induction h with
  | nil => exact .nil
  | @cons layout first layouts rest hfirst hrest ih =>
    obtain ⟨name, hfile⟩ := hfiles layout List.mem_cons_self
    have hothers := ih fun other hother => hfiles other (List.mem_cons_of_mem _ hother)
    exact .cons ⟨layoutName_renderLayout hfirst, (renderLayout_output? hfile hfirst).2⟩ hothers

namespace Pipeline

/-! ## Passes -/

/-- Making a report, where the writes in the background come to their turn in some order. -/
def renderReportIn (order : List Artifact → List Artifact) : Action RenderReport := Action.inside 1 (do
  let (items, rendered) ← renderStage
  let written ← publishStageIn order (rendered.filterMap (·.2))
  pure ⟨rendered.map (·.1), written, items.all.length⟩)

/-- They may come to their turn as they are started. -/
theorem renderReportIn_id : renderReportIn id = renderReport := by
  unfold renderReportIn
  rw [renderReport_eq_stages, publishStageIn_id]

/-- A report is made with the layouts and articles that are read, the writes in the background come to their turn in some
order, and none of them fails. A write that is waited for would leave no report. -/
structure PassesCleanly (pipeline : Pipeline) (config : LayoutConfig) (items : ItemSet) (start file : String)
    (order : List Artifact → List Artifact) (report : RenderReport) (after : Pipeline) : Prop where
  reservedStart : pipeline.environment.reservedStart = .text start
  combinedFile : pipeline.environment.combinedFile = .text file
  layouts : Source.layouts.Offers (pipeline.within 1) (.layouts config)
  articles : Source.items.Offers pipeline (.items items)
  perm : ∀ artifacts, (order artifacts).Perm artifacts
  gives : Gives (renderReportIn order) pipeline report after
  written : after.failedWrites = pipeline.failedWrites

variable {pipeline after : Pipeline} {config : LayoutConfig} {items : ItemSet} {start file : String}
  {order : List Artifact → List Artifact} {report : RenderReport}

/-- What is published in a pass: the scripts of all layouts as the combined file, and then the files of single
layouts. -/
def published (config : LayoutConfig) (start : String) (items : ItemSet) (file : String)
    (order : List Artifact → List Artifact) : List Artifact :=
  combinedArtifacts file (config.outputs start items) ++ order (ownFiles (.text file) (config.outputs start items))

/-- The stage of rendering changes the cache and the metrics only, and no failed write is forgotten in it. -/
theorem PassesCleanly.gives_renderStage (h : pipeline.PassesCleanly config items start file order report after)
    {rendered : List (RenderResult × Option Artifact)}
    (hrendered : Rendered (.text start) items config.active rendered) :
    ∃ cache metrics, Gives renderStage (pipeline.within 1) (items, rendered)
        { pipeline.within 1 with cache, metrics } ∧
      pipeline.failedWrites ≤ failedWrites { pipeline.within 1 with cache, metrics } := by
  obtain ⟨_, _, cache, metrics, hlayouts, hitems⟩ := gives_reads h.layouts h.articles
  have hreserved : ({ pipeline.within 1 with cache, metrics } : Pipeline).environment.reservedStart = .text start :=
    h.reservedStart
  rw [← hreserved] at hrendered
  obtain ⟨metrics', hrender⟩ := gives_renderLayouts _ hrendered
  have hstage : Gives renderStage (pipeline.within 1) (items, rendered)
      { pipeline.within 1 with cache, metrics := metrics' } :=
    hlayouts.bind (hitems.bind (hrender.bind (.pure (items, rendered) _)))
  refine ⟨cache, metrics', hstage, ?_⟩
  have hmore := untouched_failedWrites pipeline.failedWrites
  have hpreserves : Preserves (fun p => pipeline.failedWrites ≤ p.failedWrites) renderStage := by
    refine .bind (preserves_activeLayouts hmore trivial) fun _ => ?_
    refine .bind (preserves_classifiedItems hmore trivial) fun _ => ?_
    exact .bind (preserves_renderLayouts hmore _ _) fun _ => .pure _
  have hstaged := hpreserves (pipeline.within 1) (Nat.le_refl _)
  rw [hstage] at hstaged
  exact hstaged

/-- A pass reports on the layouts, and publishes what they add. -/
theorem PassesCleanly.published (h : pipeline.PassesCleanly config items start file order report after)
    (hfiles : ∀ layout ∈ config.active, ∃ name, layout.file = .text name) :
    pipeline.store.Published after.store (published config start items file order) ∧
      ∃ rendered, Rendered (.text start) items config.active rendered ∧ report.results = rendered.map (·.1) := by
  obtain ⟨rendered, hrendered⟩ := Rendered.exists_of_texts start items hfiles
  obtain ⟨cache, metrics, hstage, hmore⟩ := h.gives_renderStage hrendered
  have hgives := h.gives
  unfold renderReportIn at hgives
  obtain ⟨between, hinside, rfl⟩ := hgives.of_inside
  obtain ⟨_, _, hstaged, hrest⟩ := hinside.of_bind
  obtain ⟨rfl, rfl⟩ := hstaged.unique hstage
  obtain ⟨count, written, hpublish, hreport⟩ := hrest.of_bind
  obtain ⟨rfl, rfl⟩ := hreport.unique (.pure _ _)
  rw [hrendered.filterMap_eq hfiles] at hpublish
  have hcombined : ({ pipeline.within 1 with cache, metrics } : Pipeline).environment.combinedFile = .text file :=
    h.combinedFile
  obtain ⟨hkept, hpublished⟩ := publishStageIn_gives hcombined hpublish
  have hwritten : between.failedWrites = pipeline.failedWrites := h.written
  obtain ⟨hroot, hreaches, hfile⟩ := hpublished (by omega)
  exact ⟨⟨hroot, hreaches, hfile⟩, rendered, hrendered, rfl⟩

/-- The content of the combined file is the scripts of all layouts, if there are any. -/
theorem combinedScript?_eq (artifacts : List Artifact) :
    combinedScript? artifacts = if scriptsOf artifacts = [] then none else some (String.join (scriptsOf artifacts)) := by
  unfold combinedScript? scriptsOf
  cases artifacts.filter fun artifact => isScriptExtension artifact.extension <;> simp

/-- The combined file holds the scripts of all layouts. -/
theorem combinedArtifacts_eq (file : String) (artifacts : List Artifact) :
    combinedArtifacts file artifacts =
      if scriptsOf artifacts = [] then []
      else [⟨.text file, fileExtension file, String.join (scriptsOf artifacts)⟩] := by
  rw [combinedArtifacts, combinedScript?_eq]
  split <;> rfl

/-- **What a pass of rendering overwrites.** A layout is reported as added exactly if it adds something. If scripts are
added, then the combined file, unless it leads to the index of the store, holds exactly the scripts of all layouts, one
after the other, if and only if the file of a single layout that is written there last, if any is, has that very
content. And every file but the index, the documents of the layouts and of the menus among them, is as it was before if
and only if what is published last at its path, if anything is, was there already. -/
theorem renderReport_overwrites (h : pipeline.PassesCleanly config items start file order report after)
    (hfiles : ∀ layout ∈ config.active, ∃ name, layout.file = .text name) :
    List.Forall₂ (fun layout result => result.layoutName = layout.name ∧
      (result.status = .added ↔ (layout.output? start items).isSome = true)) config.active report.results ∧
    (scriptsOf (config.outputs start items) ≠ [] → ∃ path, Path.resolve? pipeline.store.root file = some path ∧
      (path ≠ [indexName] →
        (after.store.file? path = some (String.join (scriptsOf (config.outputs start items))).toUTF8 ↔
          ∀ content, lastContent? pipeline.store.root path
              (order (ownFiles (.text file) (config.outputs start items))) = some content →
            content = String.join (scriptsOf (config.outputs start items))))) ∧
    ∀ path, path ≠ [indexName] → (after.store.file? path = pipeline.store.file? path ↔
      ∀ content, lastContent? pipeline.store.root path (published config start items file order) = some content →
        pipeline.store.file? path = some content.toUTF8) := by
  obtain ⟨hpublished, rendered, hrendered, hreport⟩ := h.published hfiles
  refine ⟨?_, ?_, ?_⟩
  · rw [hreport]
    exact hrendered.statuses hfiles
  · intro hscripts
    have hcombined := combinedArtifacts_eq file (config.outputs start items)
    rw [if_neg hscripts] at hcombined
    unfold published at hpublished
    rw [hcombined] at hpublished
    obtain ⟨path, hpath⟩ := hpublished.reaches _ (List.mem_append_left _ List.mem_cons_self)
    exact ⟨path, hpath, hpublished.file?_append_iff hpath⟩
  · intro path hpath
    exact hpublished.file?_eq_iff hpath

/-! ## Two documents -/

/-- A pipeline with a layout document passes cleanly if no write fails in the background. -/
theorem exists_passesCleanly {document : Value} {text : String} (h : (ofDocument text).Ready document config .empty)
    (hfiles : ∀ layout ∈ config.active, ∃ name, layout.file = .text name)
    (hwritten : (renderReport.run (ofDocument text)).2.failedWrites = 0) :
    ∃ report, Gives renderReport (ofDocument text) report (renderReport.run (ofDocument text)).2 ∧
      (ofDocument text).PassesCleanly config (.ofArticles []) "menu" "layout.js" id report
        (renderReport.run (ofDocument text)).2 := by
  have hrenders := rendersWith_ofDocument h
  obtain ⟨report, after, hgives⟩ := hrenders.exists_report hfiles
  have hafter : (renderReport.run (ofDocument text)).2 = after := congrArg Prod.snd hgives
  rw [hafter] at hwritten ⊢
  refine ⟨report, hgives, ?_⟩
  rw [← renderReportIn_id] at hgives
  exact ⟨hrenders.reservedStart, hrenders.combinedFile, hrenders.layouts, hrenders.articles, .refl, hgives, hwritten⟩

/-- A layout document with a script and a page in a file of its own. -/
def apartText : String :=
  "[\x7b\"layout_name\":\"A\",\"active\":true,\"layout_body\":\"x\"\x7d," ++
    "\x7b\"layout_name\":\"B\",\"active\":true,\"layout_body\":\"y\"," ++ "\"layout_file\":\"b.html\"\x7d]"

/-- Its layouts. -/
def apartLayouts : List Layout :=
  [{ name := "A", body := .text "x" }, { name := "B", body := .text "y", file := .text "b.html" }]

/-- The document. -/
def apartDocument : Value :=
  .list [.record [("layout_name", .text "A"), ("active", .bool true), ("layout_body", .text "x")],
    .record [("layout_name", .text "B"), ("active", .bool true), ("layout_body", .text "y"),
      ("layout_file", .text "b.html")]]

set_option maxRecDepth 8000 in
theorem ready_apartText : (ofDocument apartText).Ready apartDocument ⟨apartLayouts⟩ .empty :=
  ready_ofDocument ofList_append_append (by decide +kernel) (by decide +kernel)

/-- The combined file has the script, and the document is as it was. -/
theorem renderReport_overwrites_apart :
    (∀ layout ∈ apartLayouts, ∃ name, layout.file = .text name) ∧
    ∃ report after, Gives renderReport (ofDocument apartText) report after ∧
      (ofDocument apartText).PassesCleanly ⟨apartLayouts⟩ (.ofArticles []) "menu" "layout.js" id report after ∧
      after.store.file? ["layout.js"] = some (wrapScript "GetA" "x").toUTF8 ∧
      after.store.file? ["sys-system-layouts.json"] = some apartText.toUTF8 := by
  have hfiles : ∀ layout ∈ apartLayouts, ∃ name, layout.file = .text name := by simp [apartLayouts]
  obtain ⟨report, hgives, hpass⟩ := exists_passesCleanly ready_apartText hfiles (by decide +kernel)
  obtain ⟨-, hcombined, hkept⟩ := renderReport_overwrites hpass hfiles
  obtain ⟨path, hpath, hscripts⟩ := hcombined (by decide +kernel)
  have hresolved : Path.resolve? (ofDocument apartText).store.root "layout.js" = some ["layout.js"] := by decide +kernel
  obtain rfl : path = ["layout.js"] := Option.some.inj (hpath.symm.trans hresolved)
  have hjoined : String.join (scriptsOf (LayoutConfig.outputs ⟨apartLayouts⟩ "menu" (.ofArticles []))) =
      wrapScript "GetA" "x" := by decide +kernel
  have hown : lastContent? (ofDocument apartText).store.root ["layout.js"]
      (ownFiles (.text "layout.js") (LayoutConfig.outputs ⟨apartLayouts⟩ "menu" (.ofArticles []))) = none := by
    decide +kernel
  have hdocument : lastContent? (ofDocument apartText).store.root ["sys-system-layouts.json"]
      (published ⟨apartLayouts⟩ "menu" (.ofArticles []) "layout.js" id) = none := by decide +kernel
  rw [id_eq, hown, hjoined] at hscripts
  refine ⟨hfiles, report, _, hgives, hpass, (hscripts (by decide)).mpr nofun, ?_⟩
  exact (hkept _ (by decide)).mpr fun content hcontent => nomatch hdocument.symm.trans hcontent

/-- A layout document with a script for the combined file and a script whose file leads there as well. -/
def doubledText : String :=
  "[\x7b\"layout_name\":\"A\",\"active\":true,\"layout_body\":\"x\"\x7d," ++
    "\x7b\"layout_name\":\"B\",\"active\":true,\"layout_body\":\"y\"," ++ "\"layout_file\":\"./layout.js\"\x7d]"

/-- Its layouts. -/
def doubledLayouts : List Layout :=
  [{ name := "A", body := .text "x" }, { name := "B", body := .text "y", file := .text "./layout.js" }]

/-- The document. -/
def doubledDocument : Value :=
  .list [.record [("layout_name", .text "A"), ("active", .bool true), ("layout_body", .text "x")],
    .record [("layout_name", .text "B"), ("active", .bool true), ("layout_body", .text "y"),
      ("layout_file", .text "./layout.js")]]

set_option maxRecDepth 8000 in
theorem ready_doubledText : (ofDocument doubledText).Ready doubledDocument ⟨doubledLayouts⟩ .empty :=
  ready_ofDocument ofList_append_append (by decide +kernel) (by decide +kernel)

/-- A layout document with a page whose file leads to the document. -/
def selfText : String :=
  "[\x7b\"layout_name\":\"C\",\"active\":true," ++ "\"layout_body\":\"[]\"," ++
    "\"layout_file\":\"sys-system-layouts.json\"\x7d]"

/-- Its layout. -/
def selfLayouts : List Layout := [{ name := "C", body := .text "[]", file := .text "sys-system-layouts.json" }]

/-- The document. -/
def selfDocument : Value :=
  .list [.record [("layout_name", .text "C"), ("active", .bool true), ("layout_body", .text "[]"),
    ("layout_file", .text "sys-system-layouts.json")]]

set_option maxRecDepth 8000 in
theorem ready_selfText : (ofDocument selfText).Ready selfDocument ⟨selfLayouts⟩ .empty :=
  ready_ofDocument ofList_append_append (by decide +kernel) (by decide +kernel)

/-- In a pass over the one document the combined file ends up with the last script only, and in a pass over the other the
document is replaced by the page. -/
theorem renderReport_overwritten :
    ((∀ layout ∈ doubledLayouts, ∃ name, layout.file = .text name) ∧
      scriptsOf (LayoutConfig.outputs ⟨doubledLayouts⟩ "menu" (.ofArticles [])) =
        [wrapScript "GetA" "x", wrapScript "GetB" "y"] ∧
      ∃ report after, Gives renderReport (ofDocument doubledText) report after ∧
        (ofDocument doubledText).PassesCleanly ⟨doubledLayouts⟩ (.ofArticles []) "menu" "layout.js" id report after ∧
        after.store.file? ["layout.js"] = some (wrapScript "GetB" "y").toUTF8 ∧
        after.store.file? ["layout.js"] ≠ some (String.join [wrapScript "GetA" "x", wrapScript "GetB" "y"]).toUTF8) ∧
    (∀ layout ∈ selfLayouts, ∃ name, layout.file = .text name) ∧
      ∃ report after, Gives renderReport (ofDocument selfText) report after ∧
        (ofDocument selfText).PassesCleanly ⟨selfLayouts⟩ (.ofArticles []) "menu" "layout.js" id report after ∧
        after.store.file? ["sys-system-layouts.json"] = some "[]".toUTF8 ∧
        after.store.file? ["sys-system-layouts.json"] ≠
          (ofDocument selfText).store.file? ["sys-system-layouts.json"] := by
  refine ⟨?_, ?_⟩
  · have hfiles : ∀ layout ∈ doubledLayouts, ∃ name, layout.file = .text name := by simp [doubledLayouts]
    obtain ⟨report, hgives, hpass⟩ := exists_passesCleanly ready_doubledText hfiles (by decide +kernel)
    have hlast : lastContent? (ofDocument doubledText).store.root ["layout.js"]
        (published ⟨doubledLayouts⟩ "menu" (.ofArticles []) "layout.js" id) = some (wrapScript "GetB" "y") := by
      decide +kernel
    have hfile := (hpass.published hfiles).1.file?_of_lastContent? (by decide) hlast
    refine ⟨hfiles, by decide +kernel, report, _, hgives, hpass, hfile, ?_⟩
    rw [hfile]
    decide +kernel
  · have hfiles : ∀ layout ∈ selfLayouts, ∃ name, layout.file = .text name := by simp [selfLayouts]
    obtain ⟨report, hgives, hpass⟩ := exists_passesCleanly ready_selfText hfiles (by decide +kernel)
    have hlast : lastContent? (ofDocument selfText).store.root ["sys-system-layouts.json"]
        (published ⟨selfLayouts⟩ "menu" (.ofArticles []) "layout.js" id) = some "[]" := by decide +kernel
    have hfile := (hpass.published hfiles).1.file?_of_lastContent? (by decide) hlast
    refine ⟨hfiles, report, _, hgives, hpass, hfile, ?_⟩
    rw [hfile]
    decide +kernel

end Pipeline

end FrontPage
