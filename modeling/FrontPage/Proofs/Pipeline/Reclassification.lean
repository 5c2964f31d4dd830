import FrontPage.Proofs.Pipeline.Serving
import FrontPage.Proofs.Value.Equality

/-!
# Classifying an export again

Where a configuration is served, classifying an export is a pass over the table of the roster
(`Pipeline.Serves.gives_reclassifyFrom`). So the second time settles everything, and the third time changes nothing;
from an empty table the first time settles everything (`Pipeline.reclassification_settles`).
-/

namespace FrontPage

namespace Pipeline

open FrontPage.Action

variable {pipeline : Pipeline} {document : Value} {config : LayoutConfig}

/-- What does not change while a pipeline classifies an export under a configuration. -/
def setting (pipeline : Pipeline) (config : LayoutConfig) : Setting := ⟨config, pipeline.now, pipeline.roster.outage⟩

/-- Classifying an export is a pass. Nothing else changes than the cache and the metrics, and the configuration goes on
being served. -/
theorem Serves.gives_reclassifyFrom (h : pipeline.Serves document config 3) {table : Table}
    (htable : pipeline.roster.table = some table) (total position : Nat) (articles : List Record) :
    ∃ lines cache metrics,
      Gives (reclassifyFrom false total position articles) pipeline lines
        { pipeline with
          roster := { pipeline.roster with table := some ((pipeline.setting config).pass articles table) }
          cache
          metrics } ∧
      ∀ e ∈ cache.entries, e.1 = layoutsEntry → e.2.value = .layouts config := by
  induction articles generalizing pipeline table position with
  | nil =>
    refine ⟨[], pipeline.cache, pipeline.metrics, ?_, h.cached⟩
    have hroster : { pipeline with roster := { pipeline.roster with table := some table } } = pipeline := by
      rw [← htable]
    exact hroster ▸ Gives.pure [] pipeline
  | cons article rest ih =>
    obtain ⟨cache, metrics, hfirst, hcached⟩ := h.gives_classifyArticle (Nat.le_refl 3) htable article .update
    have hroster : (classify config pipeline.roster article .update pipeline.now).roster =
        { pipeline.roster with table := some (((pipeline.setting config).update article).after table) } := by
      have hcall := ((pipeline.setting config).update article).roster_result table
      have hfound : ((pipeline.setting config).update article).roster table = pipeline.roster := by
        rw [Call.roster, ← htable]
        rfl
      rw [Call.result, hfound] at hcall
      exact hcall
    rw [hroster] at hfirst
    have hserves : Serves { pipeline with
        roster := { pipeline.roster with table := some (((pipeline.setting config).update article).after table) }
        cache
        metrics } document config 3 := ⟨h.loads, h.inOrder, h.reads, hcached, h.expires⟩
    obtain ⟨lines, cache', metrics', hrest, hcached'⟩ := ih hserves rfl (position + 1)
    exact ⟨_, cache', metrics', hfirst.bind (hrest.bind (Gives.pure _ _)), hcached'⟩

/-- **Classifying an export again settles everything the second time.** Let a pipeline serve a configuration, and let no
update of the export meet an error, three times over. The third time leaves exactly the rows that the second left. If
there were no rows at first, then the second time leaves exactly those that the first left, and of every flag with a
limit the articles that hold it are the first candidates of the export, as many as the limit. -/
theorem reclassification_settles (h : pipeline.Serves document config 3) {table : Table}
    (htable : pipeline.roster.table = some table) {articles : List Record}
    (hnamed : ∀ article ∈ articles, Record.IsNamed article) (hdistinct : (articles.map Record.articleId).Nodup)
    (hfirst : (pipeline.setting config).AllSmooth articles table)
    (hsecond : (pipeline.setting config).AllSmooth articles ((pipeline.setting config).pass articles table))
    (hthird : (pipeline.setting config).AllSmooth articles
      ((pipeline.setting config).pass articles ((pipeline.setting config).pass articles table)))
    (total position : Nat) :
    ∃ once twice thrice lines lines' lines'',
      Gives (reclassifyFrom false total position articles) pipeline lines once ∧
      Gives (reclassifyFrom false total position articles) once lines' twice ∧
      Gives (reclassifyFrom false total position articles) twice lines'' thrice ∧
      thrice.roster.table = twice.roster.table ∧
      (table = .empty → twice.roster.table = once.roster.table ∧
        ∀ flag layout, ∀ limit : Nat, LastNamed config.active (Flag.layoutName flag) layout →
          layout.limit = .int limit → 0 < limit → ∃ after, once.roster.table = some after ∧
            after.holders flag = (((articles.filter fun article =>
              (candidates config article).any fun c => c.1 == flag).take limit).map Record.articleId).toFinset) := by
  obtain ⟨lines, cache, metrics, hgives, hcached⟩ := h.gives_reclassifyFrom htable total position articles
  have hserves : Serves { pipeline with
      roster := { pipeline.roster with table := some ((pipeline.setting config).pass articles table) }
      cache
      metrics } document config 3 := ⟨h.loads, h.inOrder, h.reads, hcached, h.expires⟩
  obtain ⟨lines', cache', metrics', hgives', hcached'⟩ := hserves.gives_reclassifyFrom rfl total position articles
  have hserves' : Serves { pipeline with
      roster := { pipeline.roster with
        table := some ((pipeline.setting config).pass articles ((pipeline.setting config).pass articles table)) }
      cache := cache'
      metrics := metrics' } document config 3 := ⟨h.loads, h.inOrder, h.reads, hcached', h.expires⟩
  obtain ⟨lines'', cache'', metrics'', hgives'', -⟩ := hserves'.gives_reclassifyFrom rfl total position articles
  refine ⟨_, _, _, lines, lines', lines'', hgives, hgives', hgives'', ?_, fun hempty => ⟨?_, ?_⟩⟩
  · exact congrArg some (Setting.pass_pass_pass h.loads hnamed hdistinct hfirst hsecond hthird)
  · subst hempty
    exact congrArg some (Setting.pass_pass_empty h.loads hnamed hdistinct hfirst hsecond)
  · subst hempty
    intro flag layout limit hlast hlimit hpos
    have hlimitOf := LayoutConfig.limitOf_eq hlast hlimit
    refine ⟨_, rfl, ?_⟩
    rw [← hlimitOf] at hpos ⊢
    exact Setting.holders_pass_empty h.loads hnamed hdistinct hfirst hpos

/-- A layout document with one highlight that has room for one article. -/
def highlightDocument : Value :=
  .list [.record [("layout_name", .text "Highlight1"), ("active", .bool true), ("layout_limit", .int 1)]]

/-- The configuration of this document. -/
def highlightConfig : LayoutConfig := ⟨[{ name := "Highlight1", limit := .int 1 }]⟩

/-- A roster on which an article holds the highlight that does not want it any more. -/
def staleTable : Table := Table.empty.put 6 (Roster.newRow [("highlight1_flag", .text "Yes")])

/-- A pipeline whose store holds the document. -/
def stalePipeline : Pipeline where
  environment := ⟨.text "layouts.json", .null, .text "layout.js", .text "menu", .int 300, .int 60, .int 600, .null⟩
  store :=
    { root := "/store"
      objects := [(["layouts.json"],
        "[\x7b\"layout_name\": \"Highlight1\", \"active\": true, \"layout_limit\": 1\x7d]".toUTF8)] }
  roster := { table := some staleTable }
  now := .int 0

/-- Two articles of which the first wants the highlight. -/
def staleExport : List Record :=
  [[("article_id", .int 5), ("highlight1_flag", .text "Yes")], [("article_id", .int 6)]]

theorem serves_stalePipeline : stalePipeline.Serves highlightDocument highlightConfig 3 where
  loads := by decide +kernel
  inOrder := rfl
  reads steps hsteps := by
    have h : ∀ steps : Fin 4, stalePipeline.readLayouts steps = .ok (some highlightDocument) := by decide +kernel
    exact h ⟨steps, Nat.lt_succ_of_le hsteps⟩
  cached := nofun
  expires := ⟨.int 1300, rfl⟩

/-- The first article is denied the highlight at first, as the second one still holds it; the second time changes that,
and the third time nothing more. -/
theorem reclassification_settles_stalePipeline :
    ∃ once twice thrice lines lines' lines'',
      Gives (reclassifyFrom false 2 1 staleExport) stalePipeline lines once ∧
      Gives (reclassifyFrom false 2 1 staleExport) once lines' twice ∧
      Gives (reclassifyFrom false 2 1 staleExport) twice lines'' thrice ∧
      thrice.roster.table = twice.roster.table := by
  have hnamed : ∀ article ∈ staleExport, Record.IsNamed article :=
    List.forall_mem_cons.mpr ⟨⟨rfl, by decide⟩, List.forall_mem_cons.mpr ⟨⟨rfl, by decide⟩, nofun⟩⟩
  have hcounts {article : Record} {table : Table} (hid : refusal? (Record.get article idColumn) = none) (flag : Flag) :
      CountSucceeds highlightConfig (((stalePipeline.setting highlightConfig).update article).roster table) article
        flag := countSucceeds_of_inOrder rfl rfl hid
  have hfirst : (stalePipeline.setting highlightConfig).AllSmooth staleExport staleTable :=
    ⟨⟨by decide +kernel, hcounts rfl⟩, ⟨by decide +kernel, hcounts rfl⟩, trivial⟩
  have hsecond : (stalePipeline.setting highlightConfig).AllSmooth staleExport
      ((stalePipeline.setting highlightConfig).pass staleExport staleTable) :=
    ⟨⟨by decide +kernel, hcounts rfl⟩, ⟨by decide +kernel, hcounts rfl⟩, trivial⟩
  have hthird : (stalePipeline.setting highlightConfig).AllSmooth staleExport
      ((stalePipeline.setting highlightConfig).pass staleExport
        ((stalePipeline.setting highlightConfig).pass staleExport staleTable)) :=
    ⟨⟨by decide +kernel, hcounts rfl⟩, ⟨by decide +kernel, hcounts rfl⟩, trivial⟩
  obtain ⟨once, twice, thrice, lines, lines', lines'', h⟩ := reclassification_settles serves_stalePipeline rfl hnamed
    (by decide +kernel) hfirst hsecond hthird 2 1
  exact ⟨once, twice, thrice, lines, lines', lines'', h.1, h.2.1, h.2.2.1, h.2.2.2.1⟩

end Pipeline

end FrontPage
