import FrontPage.Proofs.Pipeline.Staleness

/-!
# Rows that are well formed

In a well-formed row every flag is yes or no, and one is yes (`Row.IsWellFormed`). Whatever a classification does to a
table leaves well-formed rows well formed (`Effect.isWellFormed`), with a table or without one. As nothing else writes
rows, the table is well formed after any run of articles, hooks and failures that begins without rows
(`roster_wellFormed`).
-/

namespace FrontPage

open Pipeline

/-! ## Rows and tables -/

/-- Every flag of the row is yes or no, and one is yes. -/
structure Row.IsWellFormed (row : Row) : Prop where
  words : ∀ flag, row.get (.flag flag) = .text "Yes" ∨ row.get (.flag flag) = .text "No"
  held : ∃ flag, row.get (.flag flag) = .text "Yes"

/-- A row that carries flags of which one is held is well formed. -/
theorem Row.Carries.isWellFormed {row : Row} {flags : FlagSet} (h : row.Carries flags) (hany : flags.any = true) :
    row.IsWellFormed := by
  constructor
  · intro flag
    rw [h flag]
    cases flags.get flag with
    | true => exact .inl rfl
    | false => exact .inr rfl
  · obtain ⟨flag, hheld⟩ := FlagSet.any_eq_true_iff.mp hany
    refine ⟨flag, ?_⟩
    rw [h flag, hheld]
    rfl

/-- All rows are well formed. -/
def Table.IsWellFormed (table : Table) : Prop := ∀ e ∈ table.entries, e.2.IsWellFormed

namespace Table

variable {table : Table} {id : Int} {row : Row}

theorem isWellFormed_empty : Table.empty.IsWellFormed := fun _ h => absurd h List.not_mem_nil

theorem IsWellFormed.put (h : table.IsWellFormed) (hrow : row.IsWellFormed) : (table.put id row).IsWellFormed := by
  intro e he
  rcases mem_putEntry he with rfl | he
  · exact hrow
  · exact h e he

theorem IsWellFormed.without (h : table.IsWellFormed) (term : IdTerm) : (table.without term).IsWellFormed := by
  cases term with
  | exactly id => exact fun e he => h e (List.mem_filter.mp he).1
  | _ => exact h

end Table

/-- **A classification leaves a well-formed table well formed.** -/
theorem Effect.isWellFormed {config : LayoutConfig} {roster : Roster} {table after : Table} {record : Record}
    {operation : Operation} {now : Value} {given : Option FlagSet} {outcome : ClassificationOutcome}
    (heffect : Effect config roster table record operation now after given outcome) (h : table.IsWellFormed) :
    after.IsWellFormed := by
  cases heffect with
  | skipped => exact h
  | failed => exact h
  | deleted => exact h.without _
  | cleared => exact h.without _
  | updated _ hany => exact h.put ((Roster.carries_flagged _ _ _).isWellFormed hany)
  | inserted _ hany _ _ _ hvalues =>
    have hcarries := Roster.carries_newRow (rosterValues_eq_ok hvalues).1
    exact h.put (hcarries.isWellFormed hany)

/-! ## Rosters -/

/-- The table of the roster, if there is one, is well formed. -/
def Roster.IsWellFormed (roster : Roster) : Prop := ∀ table, roster.table = some table → table.IsWellFormed

namespace Roster

variable {roster : Roster}

theorem IsWellFormed.withTable (h : roster.IsWellFormed) : roster.withTable.IsWellFormed := by
  rintro table htable
  obtain rfl := Option.some.inj htable
  cases hfound : roster.table with
  | none => exact Table.isWellFormed_empty
  | some found => exact h found hfound

theorem IsWellFormed.classify (h : roster.IsWellFormed) (config : LayoutConfig) (record : Record)
    (operation : Operation) (now : Value) :
    (FrontPage.classify config roster record operation now).roster.IsWellFormed := by
  cases hfound : roster.table with
  | none =>
    obtain ⟨outcome, trace, hclassified, -⟩ := classify_of_noTable config hfound record operation now
    rw [hclassified]
    exact h
  | some found =>
    obtain ⟨after, hroster, heffect⟩ := classify_effect config hfound record operation now
    rw [hroster]
    intro table htable
    obtain rfl := Option.some.inj htable
    exact heffect.isWellFormed (h found hfound)

/-- That the roster is well formed depends on nothing else in the pipeline, and classifications keep it. -/
theorem unharmed_isWellFormed :
    Unharmed (fun pipeline : Pipeline => pipeline.roster.IsWellFormed) fun _ => True where
  store h _ := h
  recordAll h _ _ := h
  cache h _ _ := h
  withTable _ h := h.withTable
  classified h _ _ _ := h.classify _ _ _ _
  metrics h _ := h

end Roster

/-! ## Runs -/

/-- Something that happens to a pipeline whose roster is written by classifications alone. -/
inductive RosterEvent where
  /-- What happens to the rest of the pipeline, and what is asked of it. -/
  | other (event : PipelineEvent) (h : ∀ rows, event ≠ .roster rows)
  /-- Other statements on the roster are out of order. -/
  | statements (outage : Query → Option String)
  | dropTable
  | hook (moduleName hookName : Value) (arguments : List Value) (workplace : Workplace)

/-- The pipeline after such an event; actions may fail. -/
def RosterEvent.after (pipeline : Pipeline) : RosterEvent → Pipeline
  | .other event _ => event.after pipeline
  | .statements outage => { pipeline with roster := { pipeline.roster with outage } }
  | .dropTable => { pipeline with roster := { pipeline.roster with table := none } }
  | .hook moduleName hookName arguments workplace =>
    ((runNamedHook moduleName hookName arguments workplace).run pipeline).2

/-- An event leaves a well-formed roster well formed. -/
theorem RosterEvent.isWellFormed_after (event : RosterEvent) {pipeline : Pipeline}
    (h : pipeline.roster.IsWellFormed) : (event.after pipeline).roster.IsWellFormed := by
  have hunharmed := Roster.unharmed_isWellFormed
  have huntouched := hunharmed.toUntouched
  cases event with
  | statements outage => exact h
  | dropTable => exact nofun
  | hook moduleName hookName arguments workplace =>
    exact preserves_runNamedHook hunharmed (fun _ _ => trivial) moduleName hookName arguments workplace pipeline h
  | other event hother =>
    cases event with
    | roster rows => exact absurd rfl (hother rows)
    | store objects => exact h
    | outages found => exact h
    | clock time => exact h
    | day now => exact h
    | clearCaches => exact h
    | forgetItems => exact h
    | classify steps item operation =>
      exact huntouched.preserves_inside steps
        (preserves_classifyArticle hunharmed trivial trivial item operation) pipeline h
    | render steps =>
      exact huntouched.preserves_inside steps (preserves_renderReport huntouched trivial trivial) pipeline h
    | read steps source =>
      cases source with
      | layouts =>
        exact huntouched.preserves_inside steps (.map (preserves_activeLayouts huntouched trivial) _) pipeline h
      | items =>
        exact huntouched.preserves_inside steps (.map (preserves_classifiedItems huntouched trivial) _) pipeline h

/-- **The table is well formed in every state that is reached from one without rows.** -/
theorem roster_wellFormed {start : Pipeline} (hstart : start.roster.table = none ∨ start.roster.table = some .empty)
    (events : List RosterEvent) {table : Table}
    (htable : (events.foldl RosterEvent.after start).roster.table = some table) :
    ∀ e ∈ table.entries, e.2.IsWellFormed := by
  have hempty : start.roster.IsWellFormed := by
    intro found hfound
    rcases hstart with hnone | hsome
    · rw [hnone] at hfound
      cases hfound
    · rw [hsome] at hfound
      cases hfound
      exact Table.isWellFormed_empty
  have hrun : (events.foldl RosterEvent.after start).roster.IsWellFormed := by
    clear htable
    induction events using List.reverseRecOn with
    | nil => exact hempty
    | append_singleton events event ih =>
      rw [List.foldl_append]
      exact event.isWellFormed_after ih
  exact hrun table htable

/-- An article cannot be put in, another one is, and the table is dropped; when the caches are cleared a third one is
put in, written again with other flags, and cannot be deleted. -/
def droppedEvents : List RosterEvent :=
  [.statements fun query => if query = .insert then some "locked" else none,
   .other (.classify 0 (.record [("article_id", .int 5), ("highlight1_flag", .text "Yes")]) "create") nofun,
   .statements fun _ => none,
   .other (.classify 0 (.record [("article_id", .int 6), ("highlight1_flag", .text "Yes")]) "create") nofun,
   .dropTable,
   .other .clearCaches nofun,
   .hook (.text "articles") (.text "after_create")
     [.record [("article_id", .int 7), ("highlight1_flag", .text " YES "), ("highlight2_flag", .bool true)]] .pipeline,
   .hook (.text "articles") (.text "after_update")
     [.record [("highlight3_flag", .text "yes")], .record [("article_id", .text "7")]] .pipeline,
   .statements fun query => if query = .delete then some "locked" else none,
   .hook (.text "articles") (.text "after_delete") [.record [("article_id", .int 7)]] .pipeline]

/-- The third article is the only one left, with the flag that it got last. -/
theorem roster_wellFormed_dropped :
    (Pipeline.ofDocument "[]").roster.table = some .empty ∧
    ∃ table, (droppedEvents.foldl RosterEvent.after (Pipeline.ofDocument "[]")).roster.table = some table ∧
      table.entries.map (fun e => (e.1, Flag.all.filter e.2.holds)) = [(7, [.highlight 2])] ∧
      ∀ e ∈ table.entries, e.2.IsWellFormed := by
  have hrun : (droppedEvents.foldl RosterEvent.after (Pipeline.ofDocument "[]")).roster.table.map
      (fun table => table.entries.map fun e => (e.1, Flag.all.filter e.2.holds)) = some [(7, [.highlight 2])] := by
    decide +kernel
  obtain ⟨table, htable, hentries⟩ := Option.map_eq_some_iff.mp hrun
  exact ⟨rfl, table, htable, hentries, roster_wellFormed (.inr rfl) droppedEvents htable⟩

end FrontPage
