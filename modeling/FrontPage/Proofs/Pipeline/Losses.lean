import FrontPage.Proofs.Pipeline.Accounting

/-!
# What becomes of the outputs

The output of a layout that is added is to be found in the combined file if it is a script, and in the layout's own file
if that is not the combined one. Where the combined file has an extension of scripts, that is every output. Where it
has another one, the output of a layout that names the combined file as its own is neither, and the pass writes what it
would write without the layout (`Pipeline.renderReport_passes_on`, `Pipeline.renderReport_loses`).
-/

namespace FrontPage

/-! ## Single artifacts -/

/-- An artifact is passed on with some files: inside one that is waited for, or as its own file in the background. -/
def Artifact.PassedOn (artifact : Artifact) (files : List Publication) : Prop :=
  (∃ publication ∈ files, publication.mode = .sync ∧
    ∃ before behind, publication.content = before ++ artifact.content ++ behind) ∨
  artifact.publication ∈ files

section

variable {artifact : Artifact} {artifacts before behind : List Artifact} {combinedFile : Value}

/-- Scripts are inside the combined file. -/
theorem passedOn_of_isScript (hm : artifact ∈ artifacts) (hscript : isScriptExtension artifact.extension = true) :
    artifact.PassedOn (publications combinedFile artifacts) := by
  have hcontent : artifact.content ∈ scriptsOf artifacts := by
    unfold scriptsOf
    exact List.mem_map.mpr ⟨artifact, List.mem_filter.mpr ⟨hm, hscript⟩, rfl⟩
  have hcombined : ⟨.sync, combinedFile, String.join (scriptsOf artifacts), .null⟩ ∈
      combinedPublications combinedFile artifacts :=
    mem_combinedPublications.mpr ⟨List.ne_nil_of_mem hcontent, rfl⟩
  obtain ⟨first, rest, hsplit⟩ := List.append_of_mem hcontent
  refine .inl ⟨_, List.mem_append_left _ hcombined, rfl, String.join first, String.join rest, ?_⟩
  rw [hsplit, String.join_append, String.join_cons, String.append_assoc]

/-- Where the combined file is another one, the artifact is written to its own file. -/
theorem passedOn_of_ne (hm : artifact ∈ artifacts) (hother : artifact.file.equals combinedFile = false) :
    artifact.PassedOn (publications combinedFile artifacts) := by
  apply Or.inr
  apply List.mem_append_right
  apply List.mem_map_of_mem
  exact List.mem_filter.mpr ⟨hm, by rw [hother]; rfl⟩

/-- An artifact that is no script and whose file is the combined one adds nothing to the files. -/
theorem publications_of_lost (hscript : isScriptExtension artifact.extension = false)
    (hsame : artifact.file.equals combinedFile = true) :
    publications combinedFile (before ++ artifact :: behind) = publications combinedFile (before ++ behind) := by
  simp [publications, combinedPublications, scriptsOf, hscript, hsame]

variable {name file : String}

/-- An artifact with a file of scripts or with another file than the combined one is passed on. -/
theorem passedOn_of_text (hm : artifact ∈ artifacts) (hfile : artifact.file = .text name)
    (hextension : artifact.extension = fileExtension name)
    (hpassed : fileExtension file = "js" ∨ artifact.file ≠ .text file) :
    artifact.PassedOn (publications (.text file) artifacts) := by
  by_cases hsame : name = file
  · -- The own file is the combined one, so that its extension is that of scripts.
    rcases hpassed with hjs | hother
    · apply passedOn_of_isScript hm
      rw [hextension, hsame, hjs]
      rfl
    · rw [hfile, hsame] at hother
      exact absurd rfl hother
  · apply passedOn_of_ne hm
    rw [hfile]
    simpa [Value.equals] using hsame

/-- An artifact for a combined file that holds no scripts adds nothing to the files. -/
theorem publications_of_text (hfile : artifact.file = .text file) (hextension : artifact.extension = fileExtension file)
    (hpage : fileExtension file ≠ "js") :
    publications (.text file) (before ++ artifact :: behind) = publications (.text file) (before ++ behind) := by
  apply publications_of_lost
  · rw [hextension]
    exact beq_eq_false_iff_ne.mpr hpage
  · rw [hfile]
    simp [Value.equals]

end

/-- The artifact of a layout whose file is a text has the extension of that text. -/
theorem Accounted.file_of_text {start : Value} {items : ItemSet} {layout : Layout}
    {rendered : RenderResult × Option Artifact} (h : Accounted start items layout rendered) {artifact : Artifact}
    (hartifact : rendered.2 = some artifact) {name : String} (hname : layout.file = .text name) :
    artifact.file = .text name ∧ artifact.extension = fileExtension name := by
  obtain ⟨hfile, hextension, -⟩ := h.artifact artifact hartifact
  rw [hname] at hfile hextension
  exact ⟨hfile, (Except.ok.inj hextension).symm⟩

/-- Each result is that of one of the layouts. -/
theorem exists_accounted_of_mem {start : Value} {items : ItemSet} {layouts : List Layout}
    {rendered : List (RenderResult × Option Artifact)} (h : List.Forall₂ (Accounted start items) layouts rendered)
    {r : RenderResult × Option Artifact} (hm : r ∈ rendered) : ∃ layout ∈ layouts, Accounted start items layout r := by
  induction h with
  | nil => cases hm
  | cons hfirst _ ih =>
    rcases List.mem_cons.mp hm with rfl | hm
    · exact ⟨_, List.mem_cons_self, hfirst⟩
    · obtain ⟨layout, hlayout, haccounted⟩ := ih hm
      exact ⟨layout, List.mem_cons_of_mem _ hlayout, haccounted⟩

namespace Pipeline

/-! ## Passes -/

variable {pipeline after : Pipeline} {report : RenderReport} {file : String}

/-- **Outputs are passed on, unless they are pages for a combined file that holds no scripts.** The output of every layout
that is reported as added is in the combined file or in the layout's own one, where the combined file has an extension
of scripts or is not the layout's own. Otherwise it is lost: the files are those of the other layouts. -/
theorem renderReport_passes_on (hcombined : pipeline.environment.combinedFile = .text file)
    (h : Gives renderReport pipeline report after) :
    ∃ config items rendered, pipeline.Performs config items rendered after ∧
      List.Forall₂ (Accounted pipeline.environment.reservedStart items) config.active rendered ∧
      report.results = rendered.map (·.1) ∧
      ((∀ layout ∈ config.active, ∃ name, layout.file = .text name) →
        ∀ before r behind, rendered = before ++ r :: behind → r.1.status = .added →
          ∃ artifact, r.2 = some artifact ∧
            (fileExtension file = "js" ∨ artifact.file ≠ .text file →
              artifact.PassedOn (publications pipeline.environment.combinedFile (rendered.filterMap (·.2)))) ∧
            (fileExtension file ≠ "js" → artifact.file = .text file →
              publications pipeline.environment.combinedFile (rendered.filterMap (·.2)) =
                publications pipeline.environment.combinedFile ((before ++ behind).filterMap (·.2)))) := by
  obtain ⟨config, items, rendered, hperforms, hrendered, rfl⟩ := performs_of_renderReport h
  have haccounted : List.Forall₂ (Accounted pipeline.environment.reservedStart items) config.active rendered :=
    hrendered.imp fun layout r hr => accounted_of_renderLayout hr
  refine ⟨config, items, rendered, hperforms, haccounted, rfl, ?_⟩
  rintro hfiles before ⟨result, made⟩ behind rfl hadded
  obtain ⟨layout, hlayout, hr⟩ := exists_accounted_of_mem haccounted (List.mem_append_right _ List.mem_cons_self)
  obtain ⟨name, hname⟩ := hfiles layout hlayout
  obtain ⟨artifact, rfl⟩ := Option.isSome_iff_exists.mp (hr.added_iff.mp hadded)
  obtain ⟨hfile, hextension⟩ := hr.file_of_text rfl hname
  have hsplit : (before ++ (result, some artifact) :: behind).filterMap (·.2) =
      before.filterMap (·.2) ++ artifact :: behind.filterMap (·.2) := by simp
  rw [hsplit, hcombined]
  refine ⟨artifact, rfl, ?_, ?_⟩
  · intro hpassed
    exact passedOn_of_text (List.mem_append_right _ List.mem_cons_self) hfile hextension hpassed
  · intro hpage hown
    obtain rfl : name = file := Value.text.inj (hfile.symm.trans hown)
    rw [List.filterMap_append]
    exact publications_of_text hfile hextension hpage

/-- The script in a file of its own is passed on. -/
theorem renderReport_passes_on_motleyText : (ofDocument motleyText).environment.combinedFile = .text "layout.js" ∧
    ∃ (report : RenderReport) (after : Pipeline) (rendered : List (RenderResult × Option Artifact))
      (script : RenderResult) (artifact : Artifact),
      Gives renderReport (ofDocument motleyText) report after ∧ report.results = rendered.map (·.1) ∧
      (script, some artifact) ∈ rendered ∧ script.status = .added ∧
      artifact.PassedOn (publications (ofDocument motleyText).environment.combinedFile (rendered.filterMap (·.2))) := by
  have h := rendersWith_ofDocument ready_motleyText
  have hfiles : ∀ layout ∈ motleyLayouts, ∃ name, layout.file = .text name := by
    simp [motleyLayouts, scriptLayout, failedLayout]
  obtain ⟨report, after, hgives⟩ := h.exists_report hfiles
  obtain ⟨config, items, rendered, hperforms, haccounted, hreport, hpassed⟩ :=
    renderReport_passes_on h.combinedFile hgives
  obtain ⟨rfl, rfl⟩ := h.eq_of_performs hperforms
  rw [h.reservedStart] at haccounted
  obtain ⟨reserved, script, failed, artifact, rfl, -, hadded, -⟩ := accounted_motleyLayouts haccounted
  obtain ⟨_, hartifact, hpassed, -⟩ :=
    hpassed hfiles [(reserved, none)] (script, some artifact) [(failed, none)] rfl hadded
  cases hartifact
  have hjs : fileExtension "layout.js" = "js" := by decide +kernel
  exact ⟨h.combinedFile, report, after, _, script, artifact, hgives, hreport, by simp, hadded, hpassed (.inl hjs)⟩

/-! ## A combined file without scripts -/

/-- A pipeline as it is at first with another combined file. -/
def combinedIn (file text : String) : Pipeline :=
  { ofDocument text with environment := { defaultEnvironment with combinedFile := .text file } }

/-- It can render the layouts of its document, if it can write its combined file. -/
theorem rendersWith_combinedIn {document : Value} {config : LayoutConfig} {text : String}
    (h : (ofDocument text).Ready document config .empty)
    (hwrites : WritesScriptsTo { (ofDocument text).store with room := (ofDocument text).store.room - 2 } file) :
    (combinedIn file text).RendersWith config (.ofArticles []) "menu" file where
  reservedStart := rfl
  combinedFile := rfl
  layouts := by
    have hserves : (combinedIn file text).Serves document config 3 :=
      ⟨h.serves.loads, h.serves.inOrder, h.serves.reads, h.serves.cached, h.serves.expires⟩
    exact (hserves.inside (by decide)).offers (by decide)
  articles := (rendersWith_ofDocument h).articles
  inOrder := rfl
  writes := hwrites

/-- A layout document with a page for the file `all.html`. -/
def lostText : String :=
  "[\x7b\"layout_name\":\"A\",\"active\":true," ++ "\"layout_body\":\"x\"," ++
    "\"layout_file\":\"all.html\"\x7d]"

/-- Its layout. -/
def lostLayout : Layout := { name := "A", body := .text "x", file := .text "all.html" }

/-- The document. -/
def lostDocument : Value :=
  .list [.record [("layout_name", .text "A"), ("active", .bool true), ("layout_body", .text "x"),
    ("layout_file", .text "all.html")]]

set_option maxRecDepth 8000 in
theorem ready_lostText : (ofDocument lostText).Ready lostDocument ⟨[lostLayout]⟩ .empty :=
  ready_ofDocument ofList_append_append (by decide +kernel) (by decide +kernel)

/-- Where `all.html` is the combined file, the page is reported as added, and no file is written. -/
theorem renderReport_loses : ∃ report after,
    (combinedIn "all.html" lostText).environment.combinedFile = .text "all.html" ∧
    lostLayout.file = .text "all.html" ∧ Gives renderReport (combinedIn "all.html" lostText) report after ∧
    report.results.map (·.status) = [.added] ∧ report.filesWritten = 0 ∧
    after.store.objects = (combinedIn "all.html" lostText).store.objects := by
  have h : (combinedIn "all.html" lostText).RendersWith ⟨[lostLayout]⟩ (.ofArticles []) "menu" "all.html" :=
    rendersWith_combinedIn ready_lostText fun script => by
      have hpath : Path.resolve? "/store" "all.html" = some ["all.html"] := by decide +kernel
      exact put_ofDocument lostText hpath (by decide) (by decide +kernel) (by decide +kernel) _ script _
  obtain ⟨report, after, hgives⟩ := h.exists_report (by simp [lostLayout])
  obtain ⟨config, items, rendered, ⟨listed, ready, published, hlayouts, hitems, hwritten, rfl⟩, hrendered, rfl⟩ :=
    performs_of_renderReport hgives
  obtain ⟨_, _, _, _, hlayouts', hitems'⟩ := h.gives_reads
  obtain ⟨rfl, rfl⟩ := hlayouts.unique hlayouts'
  obtain ⟨rfl, rfl⟩ := hitems.unique hitems'
  have hpage : ∃ page, pageOf (.ofArticles []) lostLayout = .ok page := by
    have hspec : lostLayout.sortSpec = .ok [] := by decide +kernel
    rw [pageOf, hspec]
    exact ⟨_, rfl⟩
  obtain ⟨page, hpage⟩ := hpage
  have hadded : renderLayout (.text "menu") (.ofArticles []) lostLayout = .ok _ :=
    renderLayout_of_page (by decide +kernel) (by decide +kernel) rfl hpage
  rw [h.reservedStart] at hrendered
  cases hrendered with | cons hfirst hnone =>
  cases hnone
  cases hadded.symm.trans hfirst
  have hnothing : publications (.text "all.html") [(artifactOf lostLayout (fileExtension "all.html") page).2] = [] := by
    have hextension : isScriptExtension (fileExtension "all.html") = false := by decide +kernel
    rw [artifactOf_snd]
    simp [publications, combinedPublications, scriptsOf, hextension, lostLayout, Value.equals]
  have hfiles : publications (combinedIn "all.html" lostText).environment.combinedFile
      [(artifactOf lostLayout (fileExtension "all.html") page).2] = [] := hnothing
  have hunwritten : Gives (([] : List Publication).forM writeFile) _ ⟨⟩ published := hfiles ▸ hwritten
  obtain ⟨-, rfl⟩ := hunwritten.unique (.pure _ _)
  refine ⟨_, _, rfl, rfl, hgives, rfl, ?_, rfl⟩
  simp [hfiles]

end Pipeline

end FrontPage
