import FrontPage.Proofs.Pipeline.Overwriting
import FrontPage.Proofs.Text.Casing

/-!
# What a report accounts for

A pass reads the layouts and the articles, renders the layouts one after the other, and then writes files: the combined
file, which is waited for, if there are scripts, and in the background the files of single layouts
(`publications`). When it gives a report, it has done nothing else (`performs_of_renderReport`), and the report says of
every layout what became of it, and of the files how many there were (`renderReport_accounts`).
-/

namespace FrontPage

open Pipeline

/-! ## Layouts -/

/-- The layout is passed over: its name begins with the letters of reserved layouts in any letter case, or it has no
body. -/
def Layout.PassedOver (layout : Layout) (start : Value) : Prop :=
  (∃ letters, start = .text letters ∧ (Text.lower letters).toList <+: (Text.lower layout.name).toList) ∨
    layout.body.holds = false

/-- What is reported of a layout goes by whether it is passed over and has a page, and if it adds an artifact, that is its
page in its file. -/
structure Accounted (start : Value) (items : ItemSet) (layout : Layout) (rendered : RenderResult × Option Artifact) :
    Prop where
  layoutName : rendered.1.layoutName = layout.name
  skipped_iff : rendered.1.status = .skipped ↔ layout.PassedOver start
  error_iff : rendered.1.status = .error ↔ ¬layout.PassedOver start ∧ ∃ cause, pageOf items layout = .error cause
  added_iff : rendered.1.status = .added ↔ rendered.2.isSome = true
  artifact : ∀ artifact, rendered.2 = some artifact → artifact.file = layout.file ∧
    extension? layout.file = .ok artifact.extension ∧ ∃ page, pageOf items layout = .ok page ∧
      artifact.content = if isScriptExtension artifact.extension then
        wrapScript (scriptFunctionName layout.name) page.html else page.html

namespace Layout

variable {layout : Layout} {letters : String}

theorem passedOver_iff :
    layout.PassedOver (.text letters) ↔ layout.isReserved letters = true ∨ layout.body.holds = false := by
  unfold PassedOver isReserved Text.begins
  rw [List.isPrefixOf_iff_prefix]
  simp

/-- Where the letters are plain ones, the name of a layout with a body is compared in ASCII case. -/
theorem passedOver_iff_of_isPlain (hbody : layout.body.holds = true)
    (hletters : ∀ c ∈ letters.toList, Text.isPlain c = true) :
    layout.PassedOver (.text letters) ↔
      (layout.name.toList.take letters.toList.length).map Char.toLower = letters.toList.map Char.toLower := by
  rw [passedOver_iff, isReserved, Text.begins_lower_iff hletters, hbody]
  simp

end Layout

/-- The artifact of a page, in a file with an extension. -/
theorem artifactOf_snd (layout : Layout) (extension : String) (page : Page) :
    (artifactOf layout extension page).2 = ⟨layout.file, extension,
      if isScriptExtension extension then wrapScript (scriptFunctionName layout.name) page.html else page.html⟩ := by
  unfold artifactOf
  split <;> rfl

/-- What becomes of a layout is reported. -/
theorem accounted_of_renderLayout {start : Value} {items : ItemSet} {layout : Layout}
    {rendered : RenderResult × Option Artifact} (h : renderLayout start items layout = .ok rendered) :
    Accounted start items layout rendered := by
  cases start with
  | text letters =>
    rw [renderLayout] at h
    by_cases hreserved : layout.isReserved letters = true
    · rw [if_pos hreserved] at h
      cases h
      have hpassed : layout.PassedOver (.text letters) := Layout.passedOver_iff.mpr (.inl hreserved)
      constructor <;> simp [skipped, hpassed]
    rw [if_neg hreserved] at h
    by_cases hbody : layout.body.holds = true
    · have hpassed : ¬layout.PassedOver (.text letters) := by
        rw [Layout.passedOver_iff, hbody]
        simp [hreserved]
      rw [if_neg (by simp [hbody])] at h
      cases hpage : pageOf items layout with
      | error cause =>
        rw [hpage] at h
        cases h
        constructor <;> simp [hpassed, hpage]
      | ok page =>
        rw [hpage] at h
        cases hextension : extension? layout.file with
        | error cause =>
          rw [hextension] at h
          cases h
        | ok extension =>
          have hartifact := artifactOf_snd layout extension page
          rw [hextension] at h
          cases hmade : artifactOf layout extension page with
          | mk function artifact =>
            obtain rfl : artifact = _ := (congrArg Prod.snd hmade).symm.trans hartifact
            simp only [hmade] at h
            cases h
            constructor <;> simp [hpassed, hpage, hextension]
    · have hpassed : layout.PassedOver (.text letters) := Layout.passedOver_iff.mpr (.inr (by simpa using hbody))
      rw [if_pos (by simpa using hbody)] at h
      cases h
      constructor <;> simp [skipped, hpassed]
  | _ => cases h

namespace Accounted

variable {start : Value} {items : ItemSet} {layout : Layout} {rendered : RenderResult × Option Artifact}

/-- A layout that is not passed over and has a page is added. -/
theorem added_of_page (h : Accounted start items layout rendered) (hpassed : ¬layout.PassedOver start) {page : Page}
    (hpage : pageOf items layout = .ok page) : rendered.1.status = .added := by
  cases hstatus : rendered.1.status with
  | added => rfl
  | skipped => exact absurd (h.skipped_iff.mp hstatus) hpassed
  | error =>
    obtain ⟨-, cause, herror⟩ := h.error_iff.mp hstatus
    rw [hpage] at herror
    cases herror

/-- A layout that is not added adds nothing. -/
theorem eq_none (h : Accounted start items layout rendered) (hstatus : rendered.1.status ≠ .added) :
    rendered.2 = none := by
  cases hartifact : rendered.2 with
  | none => rfl
  | some artifact => exact absurd (h.added_iff.mpr (by rw [hartifact]; rfl)) hstatus

end Accounted

/-! ## Files -/

/-- A file to be written: whether that is waited for, and what is written as which type. A type that does not hold
follows from the file. -/
structure Publication where
  mode : WriteMode
  file : Value
  content : String
  type : Value

/-- The combined file, with the scripts of all layouts, if there are scripts. -/
def combinedPublications (combinedFile : Value) (artifacts : List Artifact) : List Publication :=
  if scriptsOf artifacts = [] then [] else [⟨.sync, combinedFile, String.join (scriptsOf artifacts), .null⟩]

/-- The file of a single layout. -/
def Artifact.publication (artifact : Artifact) : Publication :=
  ⟨.async, artifact.file, artifact.content, .text (contentTypeOf artifact.extension)⟩

/-- The files of a pass: the combined file, and those of single layouts that are another file. -/
def publications (combinedFile : Value) (artifacts : List Artifact) : List Publication :=
  combinedPublications combinedFile artifacts ++
    (artifacts.filter fun artifact => !artifact.file.equals combinedFile).map Artifact.publication

theorem mem_combinedPublications {combinedFile : Value} {artifacts : List Artifact} {publication : Publication} :
    publication ∈ combinedPublications combinedFile artifacts ↔ scriptsOf artifacts ≠ [] ∧
      publication = ⟨.sync, combinedFile, String.join (scriptsOf artifacts), .null⟩ := by
  unfold combinedPublications
  split <;> simp_all

/-- A file is waited for exactly if there is a script. -/
theorem exists_sync_iff (combinedFile : Value) (artifacts : List Artifact) :
    (∃ publication ∈ publications combinedFile artifacts, publication.mode = .sync) ↔
      ∃ artifact ∈ artifacts, isScriptExtension artifact.extension = true := by
  have hscripts : scriptsOf artifacts ≠ [] ↔ ∃ artifact ∈ artifacts, isScriptExtension artifact.extension = true := by
    unfold scriptsOf
    simp
  rw [← hscripts]
  constructor
  · rintro ⟨publication, hm, hmode⟩
    rcases List.mem_append.mp hm with hm | hm
    · exact (mem_combinedPublications.mp hm).1
    · obtain ⟨artifact, -, rfl⟩ := List.mem_map.mp hm
      cases hmode
  · intro hne
    exact ⟨_, List.mem_append_left _ (mem_combinedPublications.mpr ⟨hne, rfl⟩), rfl⟩

namespace Pipeline

open FrontPage.Action

/-- Writing the file. -/
def writeFile (publication : Publication) : Action Unit :=
  match publication.mode with
  | .sync => publishSync publication.file (.text publication.content) publication.type
  | .async => publishAsync publication.file (.text publication.content) publication.type

/-- The pipeline after what became of layouts was counted. -/
def counting (pipeline : Pipeline) (rendered : List (RenderResult × Option Artifact)) : Pipeline :=
  { pipeline with metrics := pipeline.metrics.recordAll (rendered.map fun r => .layout r.1.status) }

variable {pipeline after : Pipeline} {artifacts : List Artifact} {count : Nat}

/-- The layouts that were rendered are counted, and nothing else was done. -/
theorem rendered_of_gives {items : ItemSet} {layouts : List Layout} {rendered : List (RenderResult × Option Artifact)}
    (h : Gives (renderLayouts items layouts) pipeline rendered after) :
    Rendered pipeline.environment.reservedStart items layouts rendered ∧ after = pipeline.counting rendered := by
  induction layouts generalizing pipeline rendered with
  | nil =>
    obtain ⟨rfl, rfl⟩ := h.unique (.pure _ _)
    exact ⟨.nil, rfl⟩
  | cons layout rest ih =>
    rw [renderLayouts] at h
    obtain ⟨_, _, hget, h⟩ := h.of_bind
    cases hget
    obtain ⟨first, _, hfirst, h⟩ := h.of_bind
    cases hlayout : renderLayout pipeline.environment.reservedStart items layout with
    | error cause =>
      rw [hlayout] at hfirst
      exact absurd hfirst (Fails.ofExcept id cause _).not_gives
    | ok made =>
      rw [hlayout] at hfirst
      cases hfirst
      obtain ⟨_, _, hrecord, h⟩ := h.of_bind
      cases hrecord
      obtain ⟨others, between, hrest, hmade⟩ := h.of_bind
      obtain ⟨rfl, rfl⟩ := hmade.unique (.pure _ _)
      obtain ⟨hothers, rfl⟩ := ih hrest
      exact ⟨.cons hlayout hothers, rfl⟩

/-- Writing the combined file is writing the files that it stands for. -/
theorem writes_of_publishCombined (h : Gives (publishCombined artifacts) pipeline count after) :
    Gives ((combinedPublications pipeline.environment.combinedFile artifacts).forM writeFile) pipeline ⟨⟩ after ∧
      count = (combinedPublications pipeline.environment.combinedFile artifacts).length := by
  rw [publishCombined, combinedScript?_eq] at h
  unfold combinedPublications
  by_cases hscripts : scriptsOf artifacts = []
  · rw [if_pos hscripts] at h
    rw [if_pos hscripts]
    obtain ⟨rfl, rfl⟩ := h.unique (.pure _ _)
    exact ⟨.pure _ _, rfl⟩
  · rw [if_neg hscripts] at h
    rw [if_neg hscripts]
    obtain ⟨_, _, hget, h⟩ := h.of_bind
    cases hget
    obtain ⟨_, _, hsync, h⟩ := h.of_bind
    obtain ⟨rfl, rfl⟩ := h.unique (.pure _ _)
    exact ⟨hsync.bind (.pure _ _), rfl⟩

/-- Publishing artifacts is writing the files of a pass one after the other. -/
theorem writes_of_publishStage (h : Gives (publishStage artifacts) pipeline count after) :
    Gives ((publications pipeline.environment.combinedFile artifacts).forM writeFile) pipeline ⟨⟩ after ∧
      count = (publications pipeline.environment.combinedFile artifacts).length := by
  rw [publishStage] at h
  obtain ⟨combined, between, hcombined, h⟩ := h.of_bind
  obtain ⟨_, _, hget, h⟩ := h.of_bind
  cases hget
  have henvironment : between.environment = pipeline.environment := by
    have hkeeps := preserves_publishCombined (SameEntry.unharmed layoutsEntry pipeline).toUntouched artifacts pipeline
      (.refl _ _)
    rw [hcombined] at hkeeps
    exact hkeeps.environment
  rw [henvironment] at h
  obtain ⟨_, published, hown, h⟩ := h.of_bind
  obtain ⟨rfl, rfl⟩ := h.unique (.pure _ _)
  obtain ⟨hwritten, rfl⟩ := writes_of_publishCombined hcombined
  constructor
  · unfold publications
    rw [List.forM_eq_forM, List.forM_append, List.forM_map]
    exact hwritten.bind hown
  · rw [publications, List.length_append, List.length_map]
    rfl

/-! ## Reports -/

/-- Where everything is rendered, the layouts and the articles were read before, and the settings are as they were. -/
theorem reads_of_renderStage {items : ItemSet} {rendered : List (RenderResult × Option Artifact)}
    (h : Gives renderStage pipeline (items, rendered) after) :
    ∃ config listed ready, Gives activeLayouts pipeline config listed ∧ Gives classifiedItems listed items ready ∧
      Rendered pipeline.environment.reservedStart items config.active rendered ∧ after = ready.counting rendered ∧
      ready.environment = pipeline.environment := by
  obtain ⟨config, listed, hlayouts, hrest⟩ := h.of_bind
  obtain ⟨found, ready, hitems, hrest⟩ := hrest.of_bind
  obtain ⟨made, counted, hrender, hrest⟩ := hrest.of_bind
  obtain ⟨hsame, rfl⟩ := hrest.unique (.pure _ _)
  cases hsame
  have hlisted : SameEntry tableEntry pipeline (activeLayouts.run pipeline).2 :=
    (keeps_activeLayouts (by decide)).sameEntry
  rw [hlayouts] at hlisted
  have hready : SameEntry tableEntry listed (classifiedItems.run listed).2 :=
    (keeps_classifiedItems (by decide)).sameEntry
  rw [hitems] at hready
  have henvironment : ready.environment = pipeline.environment := (hlisted.trans hready).environment
  obtain ⟨hrendered, rfl⟩ := rendered_of_gives hrender
  rw [henvironment] at hrendered
  exact ⟨config, listed, ready, hlayouts, hitems, hrendered, rfl, henvironment⟩

/-- A pass reads a configuration and articles, counts what became of the layouts, and writes the files of their artifacts
one after the other. Nothing else is done. -/
def Performs (pipeline : Pipeline) (config : LayoutConfig) (items : ItemSet)
    (rendered : List (RenderResult × Option Artifact)) (after : Pipeline) : Prop :=
  ∃ listed ready published, Gives activeLayouts (pipeline.within 1) config listed ∧
    Gives classifiedItems listed items ready ∧
    Gives ((publications pipeline.environment.combinedFile (rendered.filterMap (·.2))).forM writeFile)
      (ready.counting rendered) ⟨⟩ published ∧
    after = { published with store := { published.store with room := pipeline.store.room } }

variable {report : RenderReport}

/-- A pass that gives a report has rendered the layouts that it has read, and written the files. -/
theorem performs_of_renderReport (h : Gives renderReport pipeline report after) :
    ∃ config items rendered, pipeline.Performs config items rendered after ∧
      Rendered pipeline.environment.reservedStart items config.active rendered ∧
      report = ⟨rendered.map (·.1),
        (publications pipeline.environment.combinedFile (rendered.filterMap (·.2))).length, items.all.length⟩ := by
  rw [renderReport_eq_stages] at h
  obtain ⟨published, hinside, hafter⟩ := h.of_inside
  obtain ⟨⟨items, rendered⟩, _, hstage, hrest⟩ := hinside.of_bind
  obtain ⟨count, _, hpublish, hreport⟩ := hrest.of_bind
  obtain ⟨rfl, rfl⟩ := hreport.unique (.pure _ _)
  obtain ⟨config, listed, ready, hlayouts, hitems, hrendered, rfl, henvironment⟩ := reads_of_renderStage hstage
  obtain ⟨hwritten, rfl⟩ := writes_of_publishStage hpublish
  have hcounted : (ready.counting rendered).environment = pipeline.environment := henvironment
  rw [hcounted] at hwritten ⊢
  exact ⟨config, items, rendered, ⟨listed, ready, published, hlayouts, hitems, hwritten, hafter⟩, hrendered, rfl⟩

/-- **A report accounts for every layout and every file.** It has one result for each active layout in their order: the
layout is skipped exactly if it is passed over, and it is added exactly if it adds an artifact, which has its file, the
extension of that and its own page. The files of the pass are written one after the other, and nothing else is done:
the combined file, which is waited for, exactly if there is a script among the artifacts, with all scripts, and then in
the background each artifact whose file is another one. The report says how many files that are. -/
theorem renderReport_accounts (h : Gives renderReport pipeline report after) :
    ∃ config items rendered, pipeline.Performs config items rendered after ∧
      List.Forall₂ (Accounted pipeline.environment.reservedStart items) config.active rendered ∧
      (∀ letters, pipeline.environment.reservedStart = .text letters →
        (∀ c ∈ letters.toList, Text.isPlain c = true) → ∀ layout : Layout, layout.body.holds = true →
          (layout.PassedOver pipeline.environment.reservedStart ↔
            (layout.name.toList.take letters.toList.length).map Char.toLower = letters.toList.map Char.toLower)) ∧
      ((∃ publication ∈ publications pipeline.environment.combinedFile (rendered.filterMap (·.2)),
          publication.mode = .sync) ↔
        ∃ artifact ∈ rendered.filterMap (·.2), isScriptExtension artifact.extension = true) ∧
      report = ⟨rendered.map (·.1),
        (publications pipeline.environment.combinedFile (rendered.filterMap (·.2))).length, items.all.length⟩ := by
  obtain ⟨config, items, rendered, hperforms, hrendered, hreport⟩ := performs_of_renderReport h
  refine ⟨config, items, rendered, hperforms, ?_, ?_, ?_, hreport⟩
  · exact hrendered.imp fun layout r hr => accounted_of_renderLayout hr
  · intro letters hstart hletters layout hbody
    rw [hstart]
    exact Layout.passedOver_iff_of_isPlain hbody hletters
  · exact exists_sync_iff _ _

/-- Where layouts and articles are offered, a pass reads these. -/
theorem RendersWith.eq_of_performs {config other : LayoutConfig} {items found : ItemSet} {start file : String}
    {rendered : List (RenderResult × Option Artifact)} (h : pipeline.RendersWith config items start file)
    (hperforms : pipeline.Performs other found rendered after) : other = config ∧ found = items := by
  obtain ⟨listed, ready, published, hlayouts, hitems, -⟩ := hperforms
  obtain ⟨_, _, _, _, hlayouts', hitems'⟩ := h.gives_reads
  obtain ⟨rfl, rfl⟩ := hlayouts.unique hlayouts'
  obtain ⟨rfl, -⟩ := hitems.unique hitems'
  exact ⟨rfl, rfl⟩

/-- A layout document with a reserved layout, a script in a file of its own and a body that is no text. -/
def motleyText : String :=
  "[\x7b\"layout_name\":\"mEnuBar\",\"active\":true,\"layout_body\":\"m\"\x7d," ++
    "\x7b\"layout_name\":\"A\",\"active\":true,\"layout_body\":\"x\",\"layout_file\":\"a.JS\"\x7d," ++
    "\x7b\"layout_name\":\"B\",\"active\":true,\"layout_body\":5\x7d]"

/-- Its layout with a script. -/
def scriptLayout : Layout := { name := "A", body := .text "x", file := .text "a.JS" }

/-- Its layout whose page cannot be made. -/
def failedLayout : Layout := { name := "B", body := .int 5 }

/-- Its layouts. -/
def motleyLayouts : List Layout := [{ name := "mEnuBar", body := .text "m" }, scriptLayout, failedLayout]

/-- The document. -/
def motleyDocument : Value :=
  .list
    [ .record [("layout_name", .text "mEnuBar"), ("active", .bool true), ("layout_body", .text "m")],
      .record [("layout_name", .text "A"), ("active", .bool true), ("layout_body", .text "x"),
        ("layout_file", .text "a.JS")],
      .record [("layout_name", .text "B"), ("active", .bool true), ("layout_body", .int 5)] ]

set_option maxRecDepth 8000 in
theorem ready_motleyText : (ofDocument motleyText).Ready motleyDocument ⟨motleyLayouts⟩ .empty :=
  ready_ofDocument ofList_append_append (by decide +kernel) (by decide +kernel)

/-- The reserved layout is skipped, the layout with a script adds it, and the last layout fails. -/
theorem accounted_motleyLayouts {rendered : List (RenderResult × Option Artifact)}
    (h : List.Forall₂ (Accounted (.text "menu") (.ofArticles [])) motleyLayouts rendered) :
    ∃ reserved script failed artifact, rendered = [(reserved, none), (script, some artifact), (failed, none)] ∧
      reserved.status = .skipped ∧ script.status = .added ∧ failed.status = .error ∧
      artifact.file = .text "a.JS" ∧ artifact.extension = "js" := by
  have hscriptPage : ∃ page, pageOf (.ofArticles []) scriptLayout = .ok page := by
    have hspec : scriptLayout.sortSpec = .ok [] := by decide +kernel
    rw [pageOf, hspec]
    exact ⟨_, rfl⟩
  have hfailedPage : ∃ cause, pageOf (.ofArticles []) failedLayout = .error cause := by
    have hspec : failedLayout.sortSpec = .ok [] := by decide +kernel
    have htemplate : failedLayout.template = .error (.bodyNotText (Value.int 5).kind) := by decide +kernel
    exact ⟨_, pageOf_of_template_error _ hspec htemplate⟩
  have hjs : extension? scriptLayout.file = .ok "js" := by decide +kernel
  cases h with | @cons _ reserved _ _ hreserved h =>
  cases h with | @cons _ script _ _ hscript h =>
  cases h with | @cons _ failed _ _ hfailed h =>
  cases h
  have hskipped := hreserved.skipped_iff.mpr (Layout.passedOver_iff.mpr (by decide +kernel))
  have hadded := hscript.added_of_page (Layout.passedOver_iff.not.mpr (by decide +kernel)) hscriptPage.choose_spec
  have herror := hfailed.error_iff.mpr ⟨Layout.passedOver_iff.not.mpr (by decide +kernel), hfailedPage⟩
  obtain ⟨artifact, hartifact⟩ := Option.isSome_iff_exists.mp (hscript.added_iff.mp hadded)
  obtain ⟨hfile, hextension, -⟩ := hscript.artifact artifact hartifact
  rw [hjs] at hextension
  have hfirst := hreserved.eq_none (by rw [hskipped]; decide)
  have hlast := hfailed.eq_none (by rw [herror]; decide)
  refine ⟨reserved.1, script.1, failed.1, artifact, ?_, hskipped, hadded, herror, hfile, ?_⟩
  · simp [Prod.ext_iff, hfirst, hartifact, hlast]
  · exact (Except.ok.inj hextension).symm

/-- They are reported so, and the script is in the combined file and in its own. -/
theorem renderReport_accounts_motleyText : ∃ report after, Gives renderReport (ofDocument motleyText) report after ∧
    report.results.map (·.status) = [.skipped, .added, .error] ∧ report.filesWritten = 2 := by
  have h := rendersWith_ofDocument ready_motleyText
  obtain ⟨report, after, hgives⟩ := h.exists_report (by simp [motleyLayouts, scriptLayout, failedLayout])
  obtain ⟨config, items, rendered, hperforms, haccounted, -, -, rfl⟩ := renderReport_accounts hgives
  obtain ⟨rfl, rfl⟩ := h.eq_of_performs hperforms
  rw [h.reservedStart] at haccounted
  obtain ⟨reserved, script, failed, artifact, rfl, hskipped, hadded, herror, hfile, hextension⟩ :=
    accounted_motleyLayouts haccounted
  have hscript : isScriptExtension artifact.extension = true := by rw [hextension]; rfl
  have hother : artifact.file.equals (.text "layout.js") = false := by rw [hfile]; decide
  refine ⟨_, after, hgives, ?_, ?_⟩
  · simp [hskipped, hadded, herror]
  · simp [h.combinedFile, publications, combinedPublications, scriptsOf, hscript, hother]

end Pipeline

end FrontPage
