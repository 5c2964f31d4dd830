import FrontPage.Proofs.Pipeline.Losses

/-!
# Functions of the combined file

The combined file defines a function for each layout that adds a script. The function has the name of the layout without
its blanks, so that two layouts have the same function exactly if their names are the same but for blanks
(`scriptFunctionName_eq_iff`). Of functions of one name the last is called, and the pages of the others are out of reach
(`Pipeline.renderReport_functions`, `Pipeline.renderReport_shadows`).
-/

namespace FrontPage

open Pipeline

/-! ## Names of functions -/

/-- The characters of a name that are no blanks. -/
def withoutBlanks (name : String) : List Char := name.toList.filter fun c => !Text.isBlank c

/-- Names lead to the same function exactly if they are the same without blanks. -/
theorem scriptFunctionName_eq_iff {name other : String} :
    scriptFunctionName name = scriptFunctionName other ↔ withoutBlanks name = withoutBlanks other := by
  unfold scriptFunctionName withoutBlanks
  rw [String.append_right_inj, String.ofList_inj]

/-! ## Scripts of a pass -/

/-- The results and artifacts of the layouts that add scripts. -/
def scriptResults (rendered : List (RenderResult × Option Artifact)) : List (RenderResult × Artifact) :=
  rendered.filterMap fun r =>
    r.2.bind fun artifact => if isScriptExtension artifact.extension then some (r.1, artifact) else none

/-- A layout is reported as added with the function of its name, and its artifact defines that function. -/
structure DefinesFunction (script : RenderResult × Artifact) : Prop where
  added : script.1.status = .added
  function : script.1.function = some (scriptFunctionName script.1.layoutName)
  content : ∃ html, script.2.content = wrapScript (scriptFunctionName script.1.layoutName) html

/-- The script that a name calls where scripts are written one after the other: the last one that defines the name. -/
def called? (scripts : List (RenderResult × Artifact)) (name : String) : Option (RenderResult × Artifact) :=
  scripts.reverse.find? fun script => script.1.function == some name

theorem mem_scriptResults {rendered : List (RenderResult × Option Artifact)} {script : RenderResult × Artifact} :
    script ∈ scriptResults rendered ↔
      (script.1, some script.2) ∈ rendered ∧ isScriptExtension script.2.extension = true := by
  obtain ⟨result, artifact⟩ := script
  simp only [scriptResults, List.mem_filterMap, Option.bind_eq_some_iff]
  constructor
  · rintro ⟨⟨_, _⟩, hm, _, rfl, hmade⟩
    split at hmade
    · next hscript =>
      cases hmade
      exact ⟨hm, hscript⟩
    · cases hmade
  · rintro ⟨hm, hscript⟩
    exact ⟨_, hm, artifact, rfl, if_pos hscript⟩

/-- The combined file is made of the scripts. -/
theorem scriptsOf_filterMap (rendered : List (RenderResult × Option Artifact)) :
    scriptsOf (rendered.filterMap (·.2)) = (scriptResults rendered).map (·.2.content) := by
  unfold scriptsOf scriptResults
  rw [List.filter_filterMap, List.map_filterMap, List.map_filterMap]
  refine congrArg (List.filterMap · rendered) (funext fun r => ?_)
  cases r.2 with
  | none => rfl
  | some artifact => cases hscript : isScriptExtension artifact.extension <;> simp [hscript]

/-- A layout that adds a script is reported with the function of its name. -/
theorem function_of_renderLayout {start : Value} {items : ItemSet} {layout : Layout} {result : RenderResult}
    {artifact : Artifact} (h : renderLayout start items layout = .ok (result, some artifact))
    (hscript : isScriptExtension artifact.extension = true) :
    result.function = some (scriptFunctionName layout.name) := by
  cases start with
  | text letters =>
    rw [renderLayout] at h
    split at h
    · cases h
    split at h
    · cases h
    split at h
    · cases h
    split at h
    · cases h
    · next extension _ =>
      cases hextension : isScriptExtension extension with
      | true =>
        rw [artifactOf, if_pos hextension] at h
        cases h
        rfl
      | false =>
        rw [artifactOf, if_neg (by simp [hextension])] at h
        cases h
        exact absurd hscript (by simp [hextension])
  | _ => cases h

/-- A layout that adds a script defines the function of its name. -/
theorem definesFunction_of_renderLayout {start : Value} {items : ItemSet} {layout : Layout} {result : RenderResult}
    {artifact : Artifact} (h : renderLayout start items layout = .ok (result, some artifact))
    (hscript : isScriptExtension artifact.extension = true) : DefinesFunction (result, artifact) := by
  have haccounted := accounted_of_renderLayout h
  have hname : result.layoutName = layout.name := haccounted.layoutName
  obtain ⟨-, -, page, -, hcontent⟩ := haccounted.artifact artifact rfl
  rw [if_pos hscript, ← hname] at hcontent
  refine ⟨haccounted.added_iff.mpr rfl, ?_, page.html, hcontent⟩
  rw [function_of_renderLayout h hscript, hname]

/-- Every script of a pass defines the function of its layout's name. -/
theorem Rendered.definesFunction {start : Value} {items : ItemSet} {layouts : List Layout}
    {rendered : List (RenderResult × Option Artifact)} (h : Rendered start items layouts rendered)
    {script : RenderResult × Artifact} (hm : script ∈ scriptResults rendered) : DefinesFunction script := by
  rw [mem_scriptResults] at hm
  obtain ⟨hm, hscript⟩ := hm
  induction h with
  | nil => cases hm
  | cons hfirst _ ih =>
    rcases List.mem_cons.mp hm with rfl | hm
    · exact definesFunction_of_renderLayout hfirst hscript
    · exact ih hm

/-- A layout adds a script: it is not passed over and has a page, and its file is one of scripts. -/
structure Layout.AddsScript (layout : Layout) (start : String) (items : ItemSet) : Prop where
  passedOver : ¬layout.PassedOver (.text start)
  page : ∃ page, pageOf items layout = .ok page
  file : ∃ extension, extension? layout.file = .ok extension ∧ isScriptExtension extension = true

theorem Layout.addsScript_iff {layout : Layout} {start : String} {items : ItemSet} :
    layout.AddsScript start items ↔ layout.isReserved start = false ∧ layout.body.holds = true ∧
      (pageOf items layout).toOption.isSome = true ∧
      (extension? layout.file).toOption.any isScriptExtension = true := by
  have hpassed : ¬layout.PassedOver (.text start) ↔ layout.isReserved start = false ∧ layout.body.holds = true := by
    rw [Layout.passedOver_iff]
    simp
  have hpage : (∃ page, pageOf items layout = .ok page) ↔ (pageOf items layout).toOption.isSome = true := by
    cases pageOf items layout <;> simp [Except.toOption]
  have hfile : (∃ extension, extension? layout.file = .ok extension ∧ isScriptExtension extension = true) ↔
      (extension? layout.file).toOption.any isScriptExtension = true := by
    cases extension? layout.file <;> simp [Except.toOption]
  rw [← and_assoc, ← hpassed, ← hpage, ← hfile]
  exact ⟨fun h => ⟨h.passedOver, h.page, h.file⟩, fun h => ⟨h.1, h.2.1, h.2.2⟩⟩

instance (layout : Layout) (start : String) (items : ItemSet) : Decidable (layout.AddsScript start items) :=
  decidable_of_iff' _ Layout.addsScript_iff

/-- A pass over layouts that all add scripts has one of each. -/
theorem scriptResults_of_addsScript {start : String} {items : ItemSet} {layouts : List Layout}
    {rendered : List (RenderResult × Option Artifact)}
    (h : List.Forall₂ (Accounted (.text start) items) layouts rendered)
    (hadds : ∀ layout ∈ layouts, layout.AddsScript start items) :
    rendered.map (·.1) = (scriptResults rendered).map (·.1) ∧
      (scriptResults rendered).map (·.1.layoutName) = layouts.map (·.name) := by
  induction h with
  | nil => exact ⟨rfl, rfl⟩
  | @cons layout first layouts rest hfirst _ ih =>
    obtain ⟨hresults, hnames⟩ := ih fun other ho => hadds other (List.mem_cons_of_mem _ ho)
    obtain ⟨hpassed, ⟨page, hpage⟩, extension, hextension, hscript⟩ := hadds layout List.mem_cons_self
    obtain ⟨result, made⟩ := first
    obtain ⟨artifact, rfl⟩ := Option.isSome_iff_exists.mp (hfirst.added_iff.mp (hfirst.added_of_page hpassed hpage))
    obtain ⟨-, hown, -⟩ := hfirst.artifact artifact rfl
    obtain rfl : extension = artifact.extension := Except.ok.inj (hextension.symm.trans hown)
    have hscripts : scriptResults ((result, some artifact) :: rest) = (result, artifact) :: scriptResults rest := by
      simp [scriptResults, hscript]
    have hname : result.layoutName = layout.name := hfirst.layoutName
    rw [hscripts]
    simp [hresults, hnames, hname]

/-- It reports each of them as added with the function of its name. -/
theorem results_of_addsScript {start : String} {items : ItemSet} {layouts : List Layout}
    {rendered : List (RenderResult × Option Artifact)}
    (h : List.Forall₂ (Accounted (.text start) items) layouts rendered)
    (hadds : ∀ layout ∈ layouts, layout.AddsScript start items)
    (hdefines : ∀ script ∈ scriptResults rendered, DefinesFunction script) :
    (rendered.map (·.1)).map (fun r => (r.layoutName, r.status, r.function)) =
      layouts.map fun layout => (layout.name, .added, some (scriptFunctionName layout.name)) := by
  obtain ⟨hresults, hnames⟩ := scriptResults_of_addsScript h hadds
  calc (rendered.map (·.1)).map (fun r => (r.layoutName, r.status, r.function))
      = (scriptResults rendered).map fun s => (s.1.layoutName, s.1.status, s.1.function) := by
        rw [hresults, List.map_map]
        rfl
    _ = (scriptResults rendered).map fun s =>
          (s.1.layoutName, .added, some (scriptFunctionName s.1.layoutName)) := by
        refine List.map_congr_left fun s hm => ?_
        rw [(hdefines s hm).added, (hdefines s hm).function]
    _ = ((scriptResults rendered).map (·.1.layoutName)).map fun name =>
          (name, .added, some (scriptFunctionName name)) := by
        rw [List.map_map]
        rfl
    _ = layouts.map fun layout => (layout.name, .added, some (scriptFunctionName layout.name)) := by
        rw [hnames, List.map_map]
        rfl

section

variable {scripts before behind : List (RenderResult × Artifact)} {script : RenderResult × Artifact}

/-- Scripts define the same function exactly if the names of their layouts are the same without blanks. -/
theorem DefinesFunction.function_eq_iff {other : RenderResult × Artifact} (h : DefinesFunction script)
    (hother : DefinesFunction other) :
    script.1.function = other.1.function ↔ withoutBlanks script.1.layoutName = withoutBlanks other.1.layoutName := by
  rw [h.function, hother.function, Option.some_inj, scriptFunctionName_eq_iff]

/-- The name of a script's function calls the last script behind it whose layout has the same name without blanks. If
there is none, it calls the script itself. -/
theorem called?_of_definesFunction (h : ∀ s ∈ scripts, DefinesFunction s)
    (hscripts : scripts = before ++ script :: behind) :
    called? scripts (scriptFunctionName script.1.layoutName) = some ((behind.reverse.find? fun other =>
      withoutBlanks other.1.layoutName == withoutBlanks script.1.layoutName).getD script) := by
  subst hscripts
  have hsame : ∀ other ∈ behind.reverse, (other.1.function == some (scriptFunctionName script.1.layoutName)) =
      (withoutBlanks other.1.layoutName == withoutBlanks script.1.layoutName) := by
    intro other hm
    have hother := h other (List.mem_append_right _ (List.mem_cons_of_mem _ (List.mem_reverse.mp hm)))
    rw [hother.function, Bool.eq_iff_iff, beq_iff_eq, beq_iff_eq, Option.some_inj, scriptFunctionName_eq_iff]
  have hself : script.1.function = some (scriptFunctionName script.1.layoutName) :=
    (h script (List.mem_append_right _ List.mem_cons_self)).function
  rw [called?, List.reverse_append, List.reverse_cons, List.append_assoc, List.find?_append, List.find?_congr hsame]
  cases behind.reverse.find? fun other => withoutBlanks other.1.layoutName == withoutBlanks script.1.layoutName with
  | some other => rfl
  | none => simp [hself]

end

namespace Pipeline

/-! ## Passes -/

variable {pipeline after : Pipeline} {report : RenderReport}

/-- **Layouts have functions of their own if their names differ in more than blanks.** Each layout that adds a script is
reported with a function, and the combined file is made of the definitions of these functions. Two of them are the same
exactly if the names of the layouts are the same without blanks, and then the last definition is the one that is
called. -/
theorem renderReport_functions (h : Gives renderReport pipeline report after) :
    ∃ config items rendered, pipeline.Performs config items rendered after ∧
      List.Forall₂ (Accounted pipeline.environment.reservedStart items) config.active rendered ∧
      report.results = rendered.map (·.1) ∧
      scriptsOf (rendered.filterMap (·.2)) = (scriptResults rendered).map (·.2.content) ∧
      (∀ script ∈ scriptResults rendered, DefinesFunction script) ∧
      (∀ script ∈ scriptResults rendered, ∀ other ∈ scriptResults rendered,
        script.1.function = other.1.function ↔
          withoutBlanks script.1.layoutName = withoutBlanks other.1.layoutName) ∧
      ∀ before script behind, scriptResults rendered = before ++ script :: behind →
        called? (scriptResults rendered) (scriptFunctionName script.1.layoutName) =
          some ((behind.reverse.find? fun other =>
            withoutBlanks other.1.layoutName == withoutBlanks script.1.layoutName).getD script) := by
  obtain ⟨config, items, rendered, hperforms, hrendered, rfl⟩ := performs_of_renderReport h
  have hdefines : ∀ script ∈ scriptResults rendered, DefinesFunction script := fun _ hm => hrendered.definesFunction hm
  refine ⟨config, items, rendered, hperforms, ?_, rfl, scriptsOf_filterMap rendered, hdefines, ?_, ?_⟩
  · exact hrendered.imp fun layout r hr => accounted_of_renderLayout hr
  · intro script hm other hother
    exact (hdefines script hm).function_eq_iff (hdefines other hother)
  · intro before script behind hscripts
    exact called?_of_definesFunction hdefines hscripts

/-! ## Two documents -/

/-- Two scripts whose layouts have names of different letters have functions of their own, and each name calls its
own. -/
theorem renderReport_functions_doubledText : ∃ report after rendered one two,
    Gives renderReport (ofDocument doubledText) report after ∧ report.results = rendered.map (·.1) ∧
      report.results.map (·.function) = [some "GetA", some "GetB"] ∧ scriptResults rendered = [one, two] ∧
      called? (scriptResults rendered) "GetA" = some one ∧ called? (scriptResults rendered) "GetB" = some two := by
  have h := rendersWith_ofDocument ready_doubledText
  obtain ⟨report, after, hgives⟩ := h.exists_report (by simp [doubledLayouts])
  obtain ⟨config, items, rendered, hperforms, haccounted, hreport, -, hdefines, -, hcalled⟩ :=
    renderReport_functions hgives
  obtain ⟨rfl, rfl⟩ := h.eq_of_performs hperforms
  rw [h.reservedStart] at haccounted
  have hadds : ∀ layout ∈ doubledLayouts, layout.AddsScript "menu" (.ofArticles []) := by decide +kernel
  have hfunctions := congrArg (List.map (·.2.2)) (results_of_addsScript haccounted hadds hdefines)
  rw [List.map_map, ← hreport] at hfunctions
  obtain ⟨-, hnames⟩ := scriptResults_of_addsScript haccounted hadds
  obtain ⟨one, rest, hscripts, hfirst, hrest⟩ := List.map_eq_cons_iff.mp hnames
  obtain ⟨two, nothing, rfl, hsecond, hnothing⟩ := List.map_eq_cons_iff.mp hrest
  obtain rfl := List.map_eq_nil_iff.mp hnothing
  have hone : one.1.layoutName = "A" := hfirst
  have htwo : two.1.layoutName = "B" := hsecond
  have hcallOne := hcalled [] one [two] hscripts
  have hcallTwo := hcalled [one] two [] hscripts
  have hletters : (withoutBlanks "B" == withoutBlanks "A") = false := by decide +kernel
  rw [hone, List.reverse_singleton, List.find?_cons, htwo, hletters] at hcallOne
  rw [htwo] at hcallTwo
  exact ⟨report, after, rendered, one, two, hgives, hreport, hfunctions.trans (by decide +kernel), hscripts, hcallOne,
    hcallTwo⟩

/-- A layout document with two layouts whose names are the same but for a blank. -/
def spacedText : String :=
  "[\x7b\"layout_name\":\"A B\",\"active\":true,\"layout_body\":\"x\"\x7d," ++
    "\x7b\"layout_name\":\"AB\",\"active\":true," ++ "\"layout_body\":\"y\"\x7d]"

/-- Its layouts. -/
def spacedLayouts : List Layout := [{ name := "A B", body := .text "x" }, { name := "AB", body := .text "y" }]

/-- The document. -/
def spacedDocument : Value :=
  .list [.record [("layout_name", .text "A B"), ("active", .bool true), ("layout_body", .text "x")],
    .record [("layout_name", .text "AB"), ("active", .bool true), ("layout_body", .text "y")]]

set_option maxRecDepth 8000 in
theorem ready_spacedText : (ofDocument spacedText).Ready spacedDocument ⟨spacedLayouts⟩ .empty :=
  ready_ofDocument ofList_append_append (by decide +kernel) (by decide +kernel)

/-- Both layouts are added under one function, which writes the page of the second. -/
theorem renderReport_shadows : ∃ report after, Gives renderReport (ofDocument spacedText) report after ∧
    report.results.map (fun r => (r.layoutName, r.status, r.function)) =
      [("A B", .added, some "GetAB"), ("AB", .added, some "GetAB")] := by
  have h := rendersWith_ofDocument ready_spacedText
  obtain ⟨report, after, hgives⟩ := h.exists_report (by simp [spacedLayouts])
  obtain ⟨config, items, rendered, hperforms, hrendered, rfl⟩ := performs_of_renderReport hgives
  obtain ⟨rfl, rfl⟩ := h.eq_of_performs hperforms
  have hdefines : ∀ script ∈ scriptResults rendered, DefinesFunction script := fun _ hm => hrendered.definesFunction hm
  rw [h.reservedStart] at hrendered
  have hadds : ∀ layout ∈ spacedLayouts, layout.AddsScript "menu" (.ofArticles []) := by decide +kernel
  have haccounted := hrendered.imp fun layout r hr => accounted_of_renderLayout hr
  exact ⟨_, after, hgives, (results_of_addsScript haccounted hadds hdefines).trans (by decide +kernel)⟩

end Pipeline

end FrontPage
