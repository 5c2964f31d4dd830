import FrontPage.Pipeline.Render
import FrontPage.Proofs.Pipeline.Serving
import Mathlib.Data.List.Forall2

/-!
# Rendering the layouts

Where the layouts and the articles can be read and the combined file can be written, rendering gives a report with what
becomes of each active layout, if something becomes of each (`RendersWith.gives_renderReport`). Pages that cannot be made
are no obstacle, nor are files of single layouts that cannot be written: it is enough that the file of a layout is a text
(`exists_renderLayout`).
-/

namespace FrontPage

/-! ## Layouts -/

theorem layoutName_renderLayout {start : Value} {items : ItemSet} {layout : Layout}
    {rendered : RenderResult × Option Artifact} (h : renderLayout start items layout = .ok rendered) :
    rendered.1.layoutName = layout.name := by
  cases start with
  | text start =>
    rw [renderLayout] at h
    split at h
    · cases h
      rfl
    split at h
    · cases h
      rfl
    split at h
    · cases h
      rfl
    split at h
    · cases h
    · cases h
      rfl
  | _ => cases h

/-- A layout whose file is a text can be rendered, whatever else its fields are. -/
theorem exists_renderLayout (start : String) (items : ItemSet) {layout : Layout} {file : String}
    (h : layout.file = .text file) : ∃ rendered, renderLayout (.text start) items layout = .ok rendered := by
  rw [renderLayout, h]
  dsimp only
  split
  · exact ⟨_, rfl⟩
  split
  · exact ⟨_, rfl⟩
  split
  · exact ⟨_, rfl⟩
  · exact ⟨_, rfl⟩

/-- What becomes of layouts one after the other. -/
def Rendered (start : Value) (items : ItemSet) : List Layout → List (RenderResult × Option Artifact) → Prop :=
  List.Forall₂ fun layout rendered => renderLayout start items layout = .ok rendered

namespace Rendered

variable {start : Value} {items : ItemSet} {layouts : List Layout}

theorem exists_of_forall (h : ∀ layout ∈ layouts, ∃ rendered, renderLayout start items layout = .ok rendered) :
    ∃ rendered, Rendered start items layouts rendered := by
  induction layouts with
  | nil => exact ⟨[], .nil⟩
  | cons layout rest ih =>
    obtain ⟨first, hfirst⟩ := h layout List.mem_cons_self
    obtain ⟨others, hothers⟩ := ih fun other ho => h other (List.mem_cons_of_mem _ ho)
    exact ⟨first :: others, .cons hfirst hothers⟩

/-- Layouts whose files are texts can be rendered one after the other. -/
theorem exists_of_texts (letters : String) (items : ItemSet)
    (hfiles : ∀ layout ∈ layouts, ∃ name, layout.file = .text name) :
    ∃ rendered, Rendered (.text letters) items layouts rendered := by
  apply exists_of_forall
  intro layout hm
  obtain ⟨name, hname⟩ := hfiles layout hm
  exact exists_renderLayout letters items hname

/-- Something has become of each of the layouts. -/
theorem exists_of_mem {rendered : List (RenderResult × Option Artifact)} (h : Rendered start items layouts rendered)
    {layout : Layout} (hm : layout ∈ layouts) : ∃ r, renderLayout start items layout = .ok r := by
  induction h with
  | nil => cases hm
  | cons hfirst _ ih =>
    rcases List.mem_cons.mp hm with rfl | hm
    · exact ⟨_, hfirst⟩
    · exact ih hm

/-- The results of a name are those of the layouts of that name. -/
theorem filter_layoutName {rendered : List (RenderResult × Option Artifact)} (h : Rendered start items layouts rendered)
    (name : String) : Rendered start items (layouts.filter fun layout => layout.name == name)
      (rendered.filter fun r => r.1.layoutName == name) :=
  List.rel_filter (fun _ _ hr => by simp only [layoutName_renderLayout hr]) h

end Rendered

/-- A page that can be made is added, with an artifact for its file. -/
theorem renderLayout_of_page {start file : String} {items : ItemSet} {layout : Layout} {page : Page}
    (hreserved : layout.isReserved start = false) (hbody : layout.body.holds = true)
    (hfile : layout.file = .text file) (hpage : pageOf items layout = .ok page) :
    renderLayout (.text start) items layout = .ok
      ({ layoutName := layout.name
         status := .added
         file := some layout.file
         function := (artifactOf layout (fileExtension file) page).1
         filteredBy := if layout.isHighlight then "yes" else "none"
         articleCount := page.articleCount }, some (artifactOf layout (fileExtension file) page).2) := by
  rw [renderLayout]
  simp only [hreserved, hbody, hpage, hfile, extension?, Bool.false_eq_true, if_false, Bool.not_true]

/-- A layout without a body has no page with a repeated block. -/
theorem Layout.body_holds_of_repeating {layout : Layout} {template before block behind : List Char}
    (htemplate : layout.template = .ok template)
    (hskeleton : Skeleton.read template = .ok (.repeating before block behind)) : layout.body.holds = true := by
  by_contra hbody
  have hempty : layout.body.orElse (.text "") = .text "" := by
    rw [Value.orElse, if_neg hbody]
  rw [Layout.template, hempty] at htemplate
  cases hname : layout.displayName.orElse (.text "") with
  | text name =>
    rw [hname] at htemplate
    cases htemplate
    cases hskeleton
  | _ =>
    rw [hname] at htemplate
    cases htemplate

/-! ## Publishing -/

theorem contentTypeOf_holds (extension : String) : (Value.text (contentTypeOf extension)).holds = true := by
  have hall : ∀ type ∈ contentTypes, (Value.text type.2).holds = true := by decide
  rw [contentTypeOf]
  cases h : contentTypes.lookup extension with
  | none => rfl
  | some type =>
    obtain ⟨before, behind, hsplit, -⟩ := List.lookup_eq_some_iff.mp h
    exact hall (extension, type) (by simp [hsplit])

namespace Pipeline

open FrontPage.Action

variable {pipeline : Pipeline} {config : LayoutConfig} {items : ItemSet} {start file : String}
  {rendered : List (RenderResult × Option Artifact)}

/-- Writing a file in the background has no consequence if it fails. -/
theorem gives_publishAsync (file : Value) (content : Content) (extension : String) (pipeline : Pipeline) :
    ∃ after, Gives (publishAsync file content (.text (contentTypeOf extension))) pipeline ⟨⟩ after := by
  rw [publishAsync, if_pos (contentTypeOf_holds extension)]
  refine (Gives.pure _ _).exists_bind ((Gives.attempt_run _ _).exists_bind ?_)
  split
  · exact ⟨_, Gives.record _ _⟩
  · exact ⟨_, Gives.record _ _⟩

/-- A script can be written to a file. -/
def WritesScriptsTo (store : ObjectStore) (file : String) : Prop :=
  ∀ script, (store.put file (.text script) (some (.text (contentTypeOf (fileExtension file))))).1 = .ok ()

/-- A script can be written to the combined file that default settings name. -/
def WritesScripts (store : ObjectStore) : Prop :=
  ∀ script, (store.put "layout.js" (.text script) (some (.text (contentTypeOf "js")))).1 = .ok ()

theorem WritesScripts.to_layoutFile {store : ObjectStore} (h : WritesScripts store) :
    WritesScriptsTo store "layout.js" := by
  have hextension : fileExtension "layout.js" = "js" := by decide +kernel
  intro script
  rw [hextension]
  exact h script

/-- The combined file is written. -/
theorem gives_publishCombined (pipeline : Pipeline) {file : String}
    (hfile : pipeline.environment.combinedFile = .text file) (hput : pipeline.outages.put = none)
    (hwrites : WritesScriptsTo { pipeline.store with room := pipeline.store.room - 1 } file)
    (artifacts : List Artifact) : ∃ count after, Gives (publishCombined artifacts) pipeline count after := by
  rw [publishCombined]
  cases combinedScript? artifacts with
  | none => exact ⟨0, pipeline, Gives.pure _ _⟩
  | some script =>
    have hobject : ∃ after, Gives (putObject (.text file) (.text script)
        (some (.text (contentTypeOf (fileExtension file)))))
        { pipeline with store := { pipeline.store with room := pipeline.store.room - 1 } } ⟨⟩ after := by
      refine (Gives.get _).exists_bind ?_
      dsimp only
      rw [hput]
      refine (Gives.ofExcept file _).exists_bind ((Gives.set _ _).exists_bind ?_)
      rw [hwrites script]
      exact ⟨_, Gives.ofExcept _ _⟩
    obtain ⟨written, hobject⟩ := hobject
    have hsync : ∃ after, Gives (publishSync (.text file) (.text script) .null) pipeline ⟨⟩ after := by
      rw [publishSync, if_neg (by decide)]
      refine ((Gives.ofExcept (fileExtension file) _).map _).exists_bind ((Gives.inside hobject).attempt.exists_bind ?_)
      exact ⟨_, Gives.record _ _⟩
    obtain ⟨after, hsync⟩ := hsync
    refine ⟨1, after, (Gives.get _).bind ?_⟩
    rw [hfile]
    exact hsync.bind (Gives.pure _ _)

/-! ## Reports -/

/-- The layouts are rendered one after another; each is counted. -/
theorem gives_renderLayouts (pipeline : Pipeline) {items : ItemSet} {layouts : List Layout}
    {rendered : List (RenderResult × Option Artifact)}
    (h : Rendered pipeline.environment.reservedStart items layouts rendered) :
    ∃ metrics, Gives (renderLayouts items layouts) pipeline rendered { pipeline with metrics } := by
  induction layouts generalizing pipeline rendered with
  | nil =>
    cases h
    exact ⟨_, Gives.pure _ _⟩
  | cons layout rest ih =>
    cases h with
    | @cons _ first _ others hfirst hothers =>
    obtain ⟨metrics, hrest⟩ := ih
      { pipeline with metrics := pipeline.metrics.recordAll [.layout first.1.status] } hothers
    refine ⟨metrics, (Gives.get _).bind ?_⟩
    rw [hfirst]
    exact (Gives.ofExcept first _).bind ((Gives.record _ _).bind (hrest.bind (Gives.pure _ _)))

/-- What a report needs: settings with texts, the layouts and the articles that a read gives, and a combined file that
scripts can be written to. -/
structure RendersWith (pipeline : Pipeline) (config : LayoutConfig) (items : ItemSet) (start file : String) : Prop where
  reservedStart : pipeline.environment.reservedStart = .text start
  combinedFile : pipeline.environment.combinedFile = .text file
  layouts : Source.layouts.Offers (pipeline.within 1) (.layouts config)
  articles : Source.items.Offers pipeline (.items items)
  inOrder : pipeline.outages.put = none
  writes : WritesScriptsTo { pipeline.store with room := pipeline.store.room - 2 } file

/-- Everything was rendered to these results and artifacts, then the artifacts were published, and that is reported. -/
def Reports (pipeline : Pipeline) (items : ItemSet) (rendered : List (RenderResult × Option Artifact))
    (report : RenderReport) : Prop :=
  ∃ staged published written, Gives renderStage (pipeline.within 1) (items, rendered) staged ∧
    Gives (publishStage (rendered.filterMap (·.2))) staged written published ∧
    report = ⟨rendered.map (·.1), written, items.all.length⟩

/-- The layouts and the articles that are offered are given one after the other, and nothing else has changed than the
cache and the metrics. -/
theorem gives_reads (hlayouts : Source.layouts.Offers (pipeline.within 1) (.layouts config))
    (harticles : Source.items.Offers pipeline (.items items)) :
    ∃ cache metrics cache' metrics', Gives activeLayouts (pipeline.within 1) config
        { pipeline.within 1 with cache, metrics } ∧
      Gives classifiedItems { pipeline.within 1 with cache, metrics } items
        { pipeline.within 1 with cache := cache', metrics := metrics' } := by
  obtain ⟨cache, metrics, hlayouts, hothers, -⟩ := gives_activeLayouts hlayouts
  have hlive : cache.live? itemsEntry pipeline.time = pipeline.cache.live? itemsEntry pipeline.time := by
    rw [Cache.live?, Cache.live?, hothers itemsEntry (by decide)]
    rfl
  have hoffers : Source.items.Offers { pipeline.within 1 with cache, metrics } (.items items) := by
    obtain ⟨hof, hoffers⟩ := harticles
    refine ⟨hof, ?_⟩
    show cache.live? itemsEntry pipeline.time = _ ∨ cache.live? itemsEntry pipeline.time = none ∧ _
    rw [hlive]
    exact hoffers
  obtain ⟨cache', metrics', hitems⟩ := gives_classifiedItems hoffers
  exact ⟨cache, metrics, cache', metrics', hlayouts, hitems⟩

/-- The layouts and the articles are at hand, and nothing else has changed than the cache and the metrics. -/
theorem RendersWith.gives_reads (h : pipeline.RendersWith config items start file) :
    ∃ cache metrics cache' metrics', Gives activeLayouts (pipeline.within 1) config
        { pipeline.within 1 with cache, metrics } ∧
      Gives classifiedItems { pipeline.within 1 with cache, metrics } items
        { pipeline.within 1 with cache := cache', metrics := metrics' } :=
  Pipeline.gives_reads h.layouts h.articles

/-- Where something becomes of every layout, all are rendered, published and reported. -/
theorem RendersWith.gives_renderReport (h : pipeline.RendersWith config items start file)
    (hrendered : Rendered (.text start) items config.active rendered) :
    ∃ report after, Gives renderReport pipeline report after ∧ pipeline.Reports items rendered report := by
  obtain ⟨cache, metrics, cache', metrics', hlayouts, hitems⟩ := h.gives_reads
  have hreserved : ({ pipeline.within 1 with cache := cache', metrics := metrics' } : Pipeline).environment.reservedStart =
      .text start := h.reservedStart
  rw [← hreserved] at hrendered
  obtain ⟨metrics'', hrender⟩ := gives_renderLayouts _ hrendered
  have hstage : Gives renderStage (pipeline.within 1) (items, rendered)
      { pipeline.within 1 with cache := cache', metrics := metrics'' } :=
    hlayouts.bind (hitems.bind (hrender.bind (Gives.pure (items, rendered) _)))
  obtain ⟨count, written, hcombined⟩ := gives_publishCombined
    { pipeline.within 1 with cache := cache', metrics := metrics'' } h.combinedFile h.inOrder h.writes
    (rendered.filterMap (·.2))
  have hasync (artifact : Artifact) (pipeline : Pipeline) : ∃ after, Gives
      (publishAsync artifact.file (.text artifact.content) (.text (contentTypeOf artifact.extension))) pipeline ⟨⟩
      after :=
    gives_publishAsync artifact.file (.text artifact.content) artifact.extension pipeline
  obtain ⟨published, hown⟩ :=
    Gives.forM hasync (ownFiles written.environment.combinedFile (rendered.filterMap (·.2))) written
  have hpublish : Gives (publishStage (rendered.filterMap (·.2)))
      { pipeline.within 1 with cache := cache', metrics := metrics'' }
      (count + (ownFiles written.environment.combinedFile (rendered.filterMap (·.2))).length) published :=
    hcombined.bind ((Gives.get _).bind (hown.bind (Gives.pure _ _)))
  rw [renderReport_eq_stages]
  exact ⟨_, _, Gives.inside (hstage.bind (hpublish.bind (Gives.pure _ _))), _, _, _, hstage, hpublish, rfl⟩

/-- So there is a report where the files of all layouts are texts. -/
theorem RendersWith.exists_report (h : pipeline.RendersWith config items start file)
    (hfiles : ∀ layout ∈ config.active, ∃ name, layout.file = .text name) :
    ∃ report after, Gives renderReport pipeline report after := by
  obtain ⟨rendered, hrendered⟩ := Rendered.exists_of_texts start items hfiles
  obtain ⟨report, after, hgives, -⟩ := h.gives_renderReport hrendered
  exact ⟨report, after, hgives⟩

end Pipeline

end FrontPage
