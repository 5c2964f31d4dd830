import FrontPage.Proofs.Pipeline.Events
import FrontPage.Proofs.Pipeline.Reads

/-!
# Layouts and each other

What becomes of a layout depends on the layout and the articles only, and a page that cannot be made is no obstacle to
the others. One failure is: a page that can be made, for a layout whose file is a value that has no extension. Where no
layout has that, a report is made, with what becomes of each layout when it is the only one
(`renderReport_isolates`); with one such layout there is no report at all (`renderReport_aborted`).
-/

namespace FrontPage

open Pipeline

/-! ## Layouts -/

/-- Something becomes of the layout: it is skipped, or its page cannot be made, or its file has an extension. -/
def Layout.HasResult (layout : Layout) (start : String) (items : ItemSet) : Prop :=
  layout.isReserved start = true ∨ layout.body.holds = false ∨ (∃ cause, pageOf items layout = .error cause) ∨
    ∃ extension, extension? layout.file = .ok extension

section

variable {layout : Layout} {start : String} {items : ItemSet}

theorem exists_renderLayout_iff :
    (∃ rendered, renderLayout (.text start) items layout = .ok rendered) ↔ layout.HasResult start items := by
  unfold Layout.HasResult
  rw [renderLayout]
  cases layout.isReserved start with
  | true => simp
  | false =>
    cases layout.body.holds with
    | false => simp
    | true =>
      cases pageOf items layout with
      | error cause => simp
      | ok page => cases extension? layout.file <;> simp

/-- A layout without a template has no page. -/
theorem pageOf_of_template_error (items : ItemSet) {spec : SortSpec} {cause : PageError}
    (hspec : layout.sortSpec = .ok spec) (htemplate : layout.template = .error cause) :
    pageOf items layout = .error cause := by
  rw [pageOf, hspec]
  show renderPage layout (sortRecords spec _) = _
  rw [renderPage, htemplate]
  rfl

/-- A page that cannot be made is reported, and there is no artifact. -/
theorem renderLayout_of_pageError {cause : PageError} (hreserved : layout.isReserved start = false)
    (hbody : layout.body.holds = true) (hpage : pageOf items layout = .error cause) :
    renderLayout (.text start) items layout = .ok
      ({ layoutName := layout.name, status := .error, file := some layout.file, error := cause.message }, none) := by
  rw [renderLayout]
  simp only [hreserved, hbody, hpage, Bool.false_eq_true, if_false, Bool.not_true]

end

namespace Pipeline

/-! ## Stages -/

variable {pipeline : Pipeline} {config : LayoutConfig} {items : ItemSet} {start file : String}
  {rendered : List (RenderResult × Option Artifact)}

/-- Where nothing becomes of some layout, rendering fails. -/
theorem fails_renderLayouts (pipeline : Pipeline) {layouts : List Layout}
    (h : ∀ rendered, ¬Rendered pipeline.environment.reservedStart items layouts rendered) :
    ∃ cause after, Fails (renderLayouts items layouts) pipeline cause after := by
  induction layouts generalizing pipeline with
  | nil => exact absurd .nil (h [])
  | cons layout rest ih =>
    cases hfirst : renderLayout pipeline.environment.reservedStart items layout with
    | error cause =>
      refine ⟨cause, pipeline, Fails.bind (Gives.get _) ?_⟩
      rw [hfirst]
      exact Fails.bind_first (Fails.ofExcept id cause _) _
    | ok first =>
      obtain ⟨cause, after, hrest⟩ := ih { pipeline with metrics := pipeline.metrics.recordAll [.layout first.1.status] }
        fun others hothers => h (first :: others) (.cons hfirst hothers)
      refine ⟨cause, after, Fails.bind (Gives.get _) ?_⟩
      rw [hfirst]
      exact Fails.bind (Gives.ofExcept first _) (Fails.bind (Gives.record _ _) (Fails.bind_first hrest _))

/-- Then there is no report. -/
theorem RendersWith.fails_renderReport (h : pipeline.RendersWith config items start file)
    (hnone : ∀ rendered, ¬Rendered (.text start) items config.active rendered) :
    ∃ cause after, Fails renderReport pipeline cause after := by
  obtain ⟨cache, metrics, cache', metrics', hlayouts, hitems⟩ := h.gives_reads
  have hreserved : ({ pipeline.within 1 with cache := cache', metrics := metrics' } : Pipeline).environment.reservedStart =
      .text start := h.reservedStart
  rw [← hreserved] at hnone
  obtain ⟨cause, after, hrender⟩ := fails_renderLayouts _ hnone
  have hstage : Fails renderStage (pipeline.within 1) cause after :=
    Fails.bind hlayouts (Fails.bind hitems (Fails.bind_first hrender _))
  rw [renderReport_eq_stages]
  exact ⟨cause, _, Fails.inside (Fails.bind_first hstage _)⟩

/-! ## Reports -/

/-- **Failures of single layouts stay with them, unless there is no extension for the file of a page.** Where the layouts
and the articles can be read and the combined file can be written, a report is made exactly if something becomes of every
active layout. Then it has one result for each of them in order, with the artifacts that were published, and these go by
the layout and the articles; a page that cannot be made is reported as an error without an artifact; and a layout has the
same result and artifact as in any report that is made of it alone with these articles. -/
theorem renderReport_isolates (h : pipeline.RendersWith config items start file) :
    ((∃ report after, Gives renderReport pipeline report after) ↔
      ∀ layout ∈ config.active, layout.HasResult start items) ∧
    ∀ report after, Gives renderReport pipeline report after →
      ∃ rendered, pipeline.Reports items rendered report ∧
        List.Forall₂ (fun (layout : Layout) (r : RenderResult × Option Artifact) =>
          renderLayout (.text start) items layout = .ok r ∧ r.1.layoutName = layout.name ∧
          (∀ cause, layout.isReserved start = false → layout.body.holds = true → pageOf items layout = .error cause →
            r.1.status = .error ∧ r.1.error = cause.message ∧ r.2 = none) ∧
          ∀ alone : Pipeline, alone.RendersWith ⟨[layout]⟩ items start file →
            ∃ report after, Gives renderReport alone report after ∧ alone.Reports items [r] report)
          config.active rendered := by
  have hresults : (∀ layout ∈ config.active, layout.HasResult start items) ↔
      ∃ rendered, Rendered (.text start) items config.active rendered := by
    constructor
    · intro hall
      exact Rendered.exists_of_forall fun layout hm => exists_renderLayout_iff.mpr (hall layout hm)
    · rintro ⟨rendered, hrendered⟩ layout hm
      exact exists_renderLayout_iff.mp (hrendered.exists_of_mem hm)
  have hreports : (∃ report after, Gives renderReport pipeline report after) ↔
      ∃ rendered, Rendered (.text start) items config.active rendered := by
    constructor
    · rintro ⟨report, after, hgives⟩
      by_contra hnone
      obtain ⟨cause, left, hfails⟩ := h.fails_renderReport (not_exists.mp hnone)
      exact hfails.not_gives hgives
    · rintro ⟨rendered, hrendered⟩
      obtain ⟨report, after, hgives, -⟩ := h.gives_renderReport hrendered
      exact ⟨report, after, hgives⟩
  refine ⟨hreports.trans hresults.symm, fun report after hgives => ?_⟩
  obtain ⟨rendered, hrendered⟩ := hreports.mp ⟨report, after, hgives⟩
  obtain ⟨report', after', hgives', hmade⟩ := h.gives_renderReport hrendered
  obtain ⟨rfl, -⟩ := hgives.unique hgives'
  refine ⟨rendered, hmade, List.Forall₂.imp (fun layout r hr => ?_) hrendered⟩
  refine ⟨hr, layoutName_renderLayout hr, fun cause hreserved hbody hpage => ?_, fun alone halone => ?_⟩
  · rw [renderLayout_of_pageError hreserved hbody hpage] at hr
    cases hr
    exact ⟨rfl, rfl, rfl⟩
  · exact halone.gives_renderReport (.cons hr .nil)

/-! ## Documents -/

/-- A pipeline with a layout document and no articles yet can render the layouts of the document. -/
theorem rendersWith_ofDocument {document : Value} {text : String}
    (h : (ofDocument text).Ready document config .empty) :
    (ofDocument text).RendersWith config (.ofArticles []) "menu" "layout.js" := by
  have hnoRows : (Table.empty.entries.filter fun e => e.2.get .active == .text "Yes") = [] := rfl
  have hscan := h.scan_eq
  rw [hnoRows, List.mergeSort_nil] at hscan
  exact h.rendersWith nofun hscan

/-- A layout document whose first layout has a body that is no text. -/
def mixedText : String :=
  "[\x7b\"layout_name\": \"A\", \"active\": true, \"layout_body\": 5\x7d, " ++
    "\x7b\"layout_name\": \"B\", \"active\": true, \"layout_body\": \"y\", " ++ "\"layout_file\": \"b.html\"\x7d]"

/-- Its layouts. -/
def mixedLayouts : List Layout :=
  [{ name := "A", body := .int 5 }, { name := "B", body := .text "y", file := .text "b.html" }]

/-- The document. -/
def mixedDocument : Value :=
  .list [.record [("layout_name", .text "A"), ("active", .bool true), ("layout_body", .int 5)],
    .record [("layout_name", .text "B"), ("active", .bool true), ("layout_body", .text "y"),
      ("layout_file", .text "b.html")]]

set_option maxRecDepth 8000 in
theorem ready_mixedText : (ofDocument mixedText).Ready mixedDocument ⟨mixedLayouts⟩ .empty :=
  ready_ofDocument ofList_append_append (by decide +kernel) (by decide +kernel)

/-- A body that is no text is an error of its own layout; the other one is reported as well. -/
theorem renderReport_isolates_mixedText : ∃ report after first second,
    Gives renderReport (ofDocument mixedText) report after ∧ report.results = [first, second] ∧
      first.status = .error ∧ first.error = "'int' object has no attribute 'replace'" ∧ second.layoutName = "B" := by
  have h := rendersWith_ofDocument ready_mixedText
  obtain ⟨hreports, hresults⟩ := renderReport_isolates h
  have hall : ∀ layout ∈ mixedLayouts, layout.HasResult "menu" (.ofArticles []) := by
    intro layout hm
    refine .inr (.inr (.inr ?_))
    rcases List.mem_cons.mp hm with rfl | hm
    · exact ⟨"js", by decide +kernel⟩
    · rw [List.mem_singleton.mp hm]
      exact ⟨"html", by decide +kernel⟩
  obtain ⟨report, after, hgives⟩ := hreports.mpr hall
  obtain ⟨rendered, ⟨staged, published, written, -, -, rfl⟩, heach⟩ := hresults report after hgives
  have hspec : ({ name := "A", body := .int 5 } : Layout).sortSpec = .ok [] := by decide +kernel
  have htemplate : ({ name := "A", body := .int 5 } : Layout).template = .error (.bodyNotText (Value.int 5).kind) := by
    decide +kernel
  have hpage := pageOf_of_template_error (.ofArticles []) hspec htemplate
  cases heach with
  | cons hfirst hrest =>
    cases hrest with
    | cons hsecond hnone =>
      cases hnone
      obtain ⟨hstatus, herror, -⟩ := hfirst.2.2.1 _ (by decide +kernel) (by decide +kernel) hpage
      exact ⟨_, _, _, _, hgives, rfl, hstatus, herror, hsecond.2.1⟩

/-- A layout document whose first layout names a number as its file. -/
def numberedText : String :=
  "[\x7b\"layout_name\": \"A\", \"active\": true, \"layout_body\": \"x\", \"layout_file\": 5\x7d, " ++
    "\x7b\"layout_name\": \"B\", \"active\": true, \"layout_body\": \"y\", " ++ "\"layout_file\": \"b.html\"\x7d]"

/-- Its layouts. -/
def numberedLayouts : List Layout :=
  [{ name := "A", body := .text "x", file := .int 5 }, { name := "B", body := .text "y", file := .text "b.html" }]

/-- The document. -/
def numberedDocument : Value :=
  .list [.record [("layout_name", .text "A"), ("active", .bool true), ("layout_body", .text "x"),
      ("layout_file", .int 5)],
    .record [("layout_name", .text "B"), ("active", .bool true), ("layout_body", .text "y"),
      ("layout_file", .text "b.html")]]

set_option maxRecDepth 8000 in
theorem ready_numberedText : (ofDocument numberedText).Ready numberedDocument ⟨numberedLayouts⟩ .empty :=
  ready_ofDocument ofList_append_append (by decide +kernel) (by decide +kernel)

/-- The number has no extension, so there is no report on either layout, though the other one can be rendered. -/
theorem renderReport_aborted :
    (ofDocument numberedText).RendersWith ⟨numberedLayouts⟩ (.ofArticles []) "menu" "layout.js" ∧
    (∃ cause after, Fails renderReport (ofDocument numberedText) cause after) ∧
    ∃ layout ∈ numberedLayouts, layout.name = "B" ∧
      ∃ rendered, renderLayout (.text "menu") (.ofArticles []) layout = .ok rendered := by
  have h := rendersWith_ofDocument ready_numberedText
  have hpage : ∃ page, pageOf (.ofArticles []) { name := "A", body := .text "x", file := .int 5 } = .ok page := by
    have hspec : ({ name := "A", body := .text "x", file := .int 5 } : Layout).sortSpec = .ok [] := by decide +kernel
    rw [pageOf, hspec]
    exact ⟨_, rfl⟩
  obtain ⟨page, hpage⟩ := hpage
  refine ⟨h, h.fails_renderReport fun rendered hrendered => ?_, _, List.mem_cons_of_mem _ List.mem_cons_self, rfl, ?_⟩
  · obtain ⟨r, hr⟩ := hrendered.exists_of_mem List.mem_cons_self
    rcases exists_renderLayout_iff.mp ⟨r, hr⟩ with hreserved | hbody | ⟨cause, herror⟩ | ⟨extension, hextension⟩
    · exact absurd hreserved (by decide +kernel)
    · exact absurd hbody (by decide +kernel)
    · rw [hpage] at herror
      cases herror
    · cases hextension
  · exact exists_renderLayout_iff.mpr (.inr (.inr (.inr ⟨"html", by decide +kernel⟩)))

end Pipeline

end FrontPage
