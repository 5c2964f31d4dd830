import FrontPage.Proofs.Classification.Capacity
import FrontPage.Proofs.Classification.Places
import FrontPage.Proofs.Roster.Description

/-!
# Passes over an export

A pass classifies the articles of an export as updates, one after the other (`pass`). For every flag it settles one
request for each article (`holders_pass`), and it leaves the row of an article as it would write it again
(`isWritten_of_pass`). Where all requests are settled and all rows are so, a pass changes nothing
(`pass_eq_of_settled`): that is so after two passes over any table (`pass_pass_pass`), and after one over the empty
table (`pass_pass_empty`), which gives the places of a flag to the first candidates (`holders_pass_empty`).
-/

namespace FrontPage

/-! ## What flags an article wants -/

/-- The limit of a flag: that of the last active layout of its name, and zero without one. -/
def LayoutConfig.limitOf (config : LayoutConfig) (flag : Flag) : Nat :=
  match config.byName? flag.layoutName with
  | some { limit := .int limit, .. } => limit.toNat
  | _ => 0

/-- The article wants the flag: it gets it if there is room. -/
def Flag.wants (config : LayoutConfig) (record : Record) (flag : Flag) : Bool :=
  match flag.claim config record with
  | .settled held => held
  | .limited _ => true

section

variable {document : Value} {config : LayoutConfig} {record : Record} {flag : Flag}

theorem LayoutConfig.limitOf_eq {layout : Layout} {limit : Nat} (hlast : LastNamed config.active flag.layoutName layout)
    (hlimit : layout.limit = .int limit) : config.limitOf flag = limit := by
  obtain ⟨name, body, active, displayName, order, value, file, css, script, clause⟩ := layout
  cases hlimit
  rw [limitOf, LayoutConfig.byName?_eq_some_iff.mpr hlast]
  rfl

/-- A flag is out of the question for an article, or it has no limit and is settled, or it has one and is left to a
count. -/
theorem Flag.claim_cases (hdocument : LayoutConfig.ofDocument document = .ok config) (flag : Flag) (record : Record) :
    flag.claim config record = .settled false ∨
      (config.limitOf flag = 0 ∧ flag.claim config record = .settled true) ∨
      (0 < config.limitOf flag ∧ ∃ layout, flag.claim config record = .limited layout ∧
        layout.limit = .int (config.limitOf flag)) := by
  cases hlayout : config.byName? flag.layoutName with
  | some layout =>
    have hlast := LayoutConfig.byName?_eq_some_iff.mp hlayout
    have hmem : layout ∈ config.active := by
      obtain ⟨before, behind, hl, -⟩ := hlast
      simp [hl]
    obtain ⟨limit, hlimit⟩ := LayoutConfig.limit_of_mem_ofDocument hdocument hmem
    rw [LayoutConfig.limitOf_eq hlast hlimit]
    rcases Flag.claim_of_lastNamed hlast record with hclaim | hclaim
    · exact .inl hclaim
    · rw [hclaim, Layout.claim_of_limit hlimit]
      rcases Nat.eq_zero_or_pos limit with hzero | hpos
      · exact .inr (.inl ⟨hzero, if_pos hzero⟩)
      · exact .inr (.inr ⟨hpos, layout, if_neg (Nat.pos_iff_ne_zero.mp hpos), hlimit⟩)
  | none =>
    have hzero : config.limitOf flag = 0 := by rw [LayoutConfig.limitOf, hlayout]
    rcases Flag.claim_of_byName?_eq_none hlayout record with hclaim | hclaim
    · exact .inl hclaim
    · exact .inr (.inl ⟨hzero, hclaim⟩)

/-- A classification resolves the flags that an article wants and that have room for it. -/
theorem resolvedFlags_iff_wants (hdocument : LayoutConfig.ofDocument document = .ok config) {roster : Roster}
    {table : Table} (htable : roster.table = some table) (hcount : CountSucceeds config roster record flag) :
    (resolvedFlags config roster record).get flag = true ↔
      flag.wants config record = true ∧ (config.limitOf flag = 0 ∨
        Roster.holders table (.ofValue (Record.get record idColumn)) flag < config.limitOf flag) := by
  rcases Flag.claim_cases hdocument flag record with hclaim | ⟨hzero, hclaim⟩ | ⟨hpos, layout, hclaim, hlimit⟩
  · rw [resolvedFlags_of_settled roster hclaim, Flag.wants, hclaim]
    simp
  · rw [resolvedFlags_of_settled roster hclaim, Flag.wants, hclaim]
    simp [hzero]
  · rw [resolvedFlags_of_limited htable hclaim hcount, Layout.hasRoom_iff hlimit, Flag.wants, hclaim]
    simp [Nat.pos_iff_ne_zero.mp hpos]

end

/-! ## What a classification writes again -/

/-- The row is as a classification of the record leaves it: it carries flags, of which one is held, and the date of the
record's last update. -/
def Row.IsWritten (row : Row) (record : Record) (now : Value) : Prop :=
  ∃ flags : FlagSet, ∃ date, flags.any = true ∧ row.Carries flags ∧ lastUpdate record now = .ok date ∧
    row.get .lastUpdateDate = Column.lastUpdateDate.cell date

theorem Table.put_eq_self {table : Table} {id : Int} {row : Row} (h : table.find? id = some row) :
    table.put id row = table := by
  refine ext_find? fun other => ?_
  rw [find?_put]
  split
  · next he => rw [he, h]
  · rfl

theorem Roster.flagged_eq_self {flags : FlagSet} {date : Value} {row : Row} (hcarries : row.Carries flags)
    (hdate : row.get .lastUpdateDate = Column.lastUpdateDate.cell date) : flagged flags.record date row = row := by
  refine Slots.ext_get fun column => ?_
  rw [flagged, Slots.get_ofFn]
  cases column with
  | flag f =>
    simp only [flags.get?_record f, Option.map_some, Option.getD_some]
    exact (hcarries f).symm
  | lastUpdateDate => exact hdate.symm
  | _ => rfl

namespace Effect

variable {config : LayoutConfig} {roster : Roster} {table after : Table} {record : Record} {operation : Operation}
  {now : Value} {given : Option FlagSet} {outcome : ClassificationOutcome} {id : Int}

/-- The row of an article whose classification was carried out is written. -/
theorem isWritten (h : Effect config roster table record operation now after given outcome)
    (hdone : outcome = .deleted ∨ outcome = .upserted)
    (hid : IdTerm.ofValue (Record.get record idColumn) = .exactly id) {row : Row} (hrow : after.find? id = some row) :
    row.IsWritten record now := by
  cases h with
  | skipped => simp at hdone
  | failed => simp at hdone
  | deleted =>
    rw [hid, Table.without, Table.find?_erase, if_pos rfl] at hrow
    cases hrow
  | cleared =>
    rw [hid, Table.without, Table.find?_erase, if_pos rfl] at hrow
    cases hrow
  | @updated n old date hop hany hdate hn _ =>
    obtain rfl : n = id := IdTerm.exactly.inj (hn.symm.trans hid)
    rw [Table.find?_put, if_pos rfl] at hrow
    cases hrow
    exact ⟨_, date, hany, Roster.carries_flagged _ _ _, hdate, Roster.flagged_lastUpdateDate _ _ _⟩
  | @inserted n values date hop hany hdate hn _ hvalues =>
    obtain rfl : n = id := eq_of_exactly hn hid
    rw [Table.find?_put, if_pos rfl] at hrow
    cases hrow
    exact ⟨_, date, hany, Roster.carries_newRow (rosterValues_eq_ok hvalues).1, hdate,
      Roster.newRow_lastUpdateDate hvalues⟩

/-- A classification that takes no article's flags and gives none, of an article whose row is written, changes
nothing. -/
theorem eq_of_isWritten (h : Effect config roster table record operation now after given outcome)
    (hid : IdTerm.ofValue (Record.get record idColumn) = .exactly id)
    (hholders : ∀ flag, after.holders flag = table.holders flag)
    (hrow : ∀ row, table.find? id = some row → row.IsWritten record now) : after = table := by
  have herased : after = table.without (.ofValue (Record.get record idColumn)) → after = table := by
    rintro rfl
    rw [hid, Table.without] at hholders ⊢
    refine Table.ext_find? fun other => ?_
    rw [Table.find?_erase]
    split
    · next he =>
      rw [he]
      cases hfound : table.find? id with
      | none => rfl
      | some row =>
        obtain ⟨flags, date, hany, hcarries, -⟩ := hrow row hfound
        obtain ⟨flag, hheld⟩ := FlagSet.any_eq_true_iff.mp hany
        have hm : id ∈ table.holders flag :=
          Table.mem_holders.mpr ⟨row, hfound, (hcarries.holds_eq flag).trans hheld⟩
        rw [← hholders flag, Table.holders_erase] at hm
        exact absurd hm (Finset.notMem_erase _ _)
    · rfl
  cases h with
  | skipped => rfl
  | failed => rfl
  | deleted => exact herased rfl
  | cleared => exact herased rfl
  | @updated n row date hop hany hdate hn hfound =>
    obtain rfl : n = id := IdTerm.exactly.inj (hn.symm.trans hid)
    obtain ⟨flags, written, -, hcarries, hwritten, hrowDate⟩ := hrow row hfound
    obtain rfl : date = written := Except.ok.inj (hdate.symm.trans hwritten)
    have hsame : flags = resolvedFlags config roster record := by
      refine Slots.ext_get fun flag => ?_
      have hm := congrArg (n ∈ ·) (hholders flag)
      simp only [Table.holders_put, (Roster.carries_flagged _ _ _).holds_eq] at hm
      have hrowHolds : n ∈ table.holders flag ↔ flags.get flag = true := by
        rw [← hcarries.holds_eq flag, Table.mem_holders]
        constructor
        · rintro ⟨other, ho, hf⟩
          rw [Option.some.inj (hfound.symm.trans ho)]
          exact hf
        · exact fun hf => ⟨row, hfound, hf⟩
      rw [hrowHolds] at hm
      cases hheld : (resolvedFlags config roster record).get flag <;> simpa [hheld] using hm
    rw [← hsame, Roster.flagged_eq_self hcarries hrowDate, Table.put_eq_self hfound]
  | @inserted n values date hop hany hdate hn hfree hvalues =>
    obtain rfl : n = id := eq_of_exactly hn hid
    obtain ⟨flag, hheld⟩ := FlagSet.any_eq_true_iff.mp hany
    have hm : n ∈ (table.put n (Roster.newRow values)).holders flag := by
      rw [Table.holders_put, (Roster.carries_newRow (rosterValues_eq_ok hvalues).1).holds_eq, hheld, if_pos rfl]
      exact Finset.mem_insert_self _ _
    rw [hholders flag] at hm
    obtain ⟨row, hrow, -⟩ := Table.mem_holders.mp hm
    rw [hfree] at hrow
    cases hrow

end Effect

/-- A classification of an article with an identifier that does not fail is carried out. -/
theorem Effect.done_of_ne {config : LayoutConfig} {roster : Roster} {table after : Table} {record : Record}
    {operation : Operation} {now : Value} {given : Option FlagSet} {outcome : ClassificationOutcome}
    (h : Effect config roster table record operation now after given outcome)
    (hid : (Record.get record idColumn).holds = true) (hok : outcome ≠ .error) :
    outcome = .deleted ∨ outcome = .upserted := by
  cases h with
  | skipped hskipped =>
    rw [hid] at hskipped
    cases hskipped
  | failed => exact absurd rfl hok
  | deleted => exact .inl rfl
  | cleared => exact .inl rfl
  | updated => exact .inr rfl
  | inserted => exact .inr rfl

/-! ## Passes -/

/-- The identifier of an article whose record names one as a whole number. -/
def Record.articleId (record : Record) : Int :=
  match Record.get record idColumn with
  | .number (.int id) => id
  | _ => 0

/-- The article names a whole number other than zero as its identifier. -/
structure Record.IsNamed (article : Record) : Prop where
  named : Record.get article idColumn = .int (articleId article)
  nonzero : articleId article ≠ 0

namespace Record.IsNamed

variable {article : Record}

theorem exactly (h : IsNamed article) :
    IdTerm.ofValue (Record.get article idColumn) = .exactly (articleId article) :=
  IdTerm.ofValue_of_int h.named

theorem holds (h : IsNamed article) : (Record.get article idColumn).holds = true := by
  rw [h.named, Value.holds, Bool.not_eq_true', Bool.eq_false_iff, ne_eq, Number.isZero_int]
  exact h.nonzero

end Record.IsNamed

/-- What does not change in a pass: the layouts in use, the time, and the statements that are out of order. -/
structure Setting where
  config : LayoutConfig
  now : Value
  outage : Query → Option String := fun _ => none

namespace Setting

variable (setting : Setting)

/-- An update of an article. -/
def update (article : Record) : Call := ⟨setting.config, article, .update, setting.now, setting.outage⟩

/-- The table after a pass: the articles are updated one after the other. -/
def pass (articles : List Record) (table : Table) : Table :=
  articles.foldl (fun table article => (setting.update article).after table) table

/-- An update meets no error: it does not fail, and what is to be counted is counted. -/
structure Smooth (article : Record) (table : Table) : Prop where
  succeeds : ((setting.update article).result table).outcome ≠ .error
  counts : ∀ flag, CountSucceeds setting.config ((setting.update article).roster table) article flag

/-- No update of a pass meets an error. -/
def AllSmooth : List Record → Table → Prop
  | [], _ => True
  | article :: rest, table => setting.Smooth article table ∧ AllSmooth rest ((setting.update article).after table)

/-- What an article asks for about a flag. -/
def request (flag : Flag) (article : Record) : PlaceRequest where
  id := Record.articleId article
  wanted := flag.wants setting.config article

section

variable {setting} {document : Value} {articles rest : List Record} {article : Record} {table : Table} {flag : Flag}

theorem Smooth.done (h : setting.Smooth article table) (hnamed : Record.IsNamed article) :
    (setting.update article).Done table :=
  ((setting.update article).effect table).done_of_ne hnamed.holds h.succeeds

/-- An update settles what the article asks for. -/
theorem holders_update (hdocument : LayoutConfig.ofDocument document = .ok setting.config)
    (h : setting.Smooth article table) (hnamed : Record.IsNamed article) (flag : Flag) :
    ((setting.update article).after table).holders flag =
      (setting.request flag article).settle (setting.config.limitOf flag) (table.holders flag) := by
  have htable : ((setting.update article).roster table).table = some table := rfl
  have hresolved := resolvedFlags_iff_wants hdocument htable (h.counts flag)
  rw [hnamed.exactly, Roster.holders_exactly] at hresolved
  rw [((setting.update article).effect table).holders_of_done (h.done hnamed) hnamed.exactly]
  exact if_congr ((and_iff_right nofun).trans hresolved) rfl rfl

/-- A pass settles what the articles ask for, one after the other. -/
theorem holders_pass (hdocument : LayoutConfig.ofDocument document = .ok setting.config)
    (hnamed : ∀ article ∈ articles, Record.IsNamed article) (h : setting.AllSmooth articles table) (flag : Flag) :
    (setting.pass articles table).holders flag = PlaceRequest.settleAll (setting.config.limitOf flag)
      (table.holders flag) (articles.map (setting.request flag)) := by
  induction articles generalizing table with
  | nil => rfl
  | cons article rest ih =>
    rw [List.map_cons, PlaceRequest.settleAll, List.foldl_cons,
      ← holders_update hdocument h.1 (hnamed article List.mem_cons_self)]
    exact ih (fun other ho => hnamed other (List.mem_cons_of_mem _ ho)) h.2

theorem find?_pass_of_notMem (hnamed : ∀ article ∈ articles, Record.IsNamed article) {id : Int}
    (hid : id ∉ articles.map Record.articleId) (table : Table) :
    (setting.pass articles table).find? id = table.find? id := by
  induction articles generalizing table with
  | nil => rfl
  | cons article rest ih =>
    rw [List.map_cons, List.mem_cons, not_or] at hid
    rw [pass, List.foldl_cons, ← pass, ih (fun other ho => hnamed other (List.mem_cons_of_mem _ ho)) hid.2]
    exact ((setting.update article).effect table).find?_of_ne (hnamed article List.mem_cons_self).exactly hid.1

/-- After a pass the rows of its articles are as they would be written again. -/
theorem isWritten_of_pass (hnamed : ∀ article ∈ articles, Record.IsNamed article)
    (hdistinct : (articles.map Record.articleId).Nodup) (h : setting.AllSmooth articles table) :
    ∀ article ∈ articles, ∀ row, (setting.pass articles table).find? (Record.articleId article) = some row →
      row.IsWritten article setting.now := by
  induction articles generalizing table with
  | nil => exact nofun
  | cons first rest ih =>
    obtain ⟨hfirst, hrest⟩ := List.nodup_cons.mp hdistinct
    have hothers : ∀ article ∈ rest, Record.IsNamed article := fun other ho => hnamed other (List.mem_cons_of_mem _ ho)
    intro article hm row hrow
    rcases List.mem_cons.mp hm with rfl | hm
    · rw [pass, List.foldl_cons, ← pass, find?_pass_of_notMem hothers hfirst] at hrow
      have hname := hnamed article List.mem_cons_self
      exact ((setting.update article).effect table).isWritten (h.1.done hname) hname.exactly hrow
    · exact ih hothers hrest h.2 article hm row hrow

/-- A pass changes nothing where all requests are settled and all rows are as they would be written again. -/
theorem pass_eq_of_settled (hdocument : LayoutConfig.ofDocument document = .ok setting.config)
    (hnamed : ∀ article ∈ articles, Record.IsNamed article) (h : setting.AllSmooth articles table)
    (hsettled : ∀ flag, ∀ article ∈ articles,
      (setting.request flag article).settle (setting.config.limitOf flag) (table.holders flag) = table.holders flag)
    (hwritten : ∀ article ∈ articles, ∀ row, table.find? (Record.articleId article) = some row →
      row.IsWritten article setting.now) : setting.pass articles table = table := by
  induction articles with
  | nil => rfl
  | cons article rest ih =>
    have hname := hnamed article List.mem_cons_self
    have hsame : (setting.update article).after table = table :=
      ((setting.update article).effect table).eq_of_isWritten hname.exactly
        (fun flag => (holders_update hdocument h.1 hname flag).trans (hsettled flag article List.mem_cons_self))
        (hwritten article List.mem_cons_self)
    have hrest := h.2
    rw [hsame] at hrest
    rw [pass, List.foldl_cons, hsame]
    exact ih (fun other ho => hnamed other (List.mem_cons_of_mem _ ho)) hrest
      (fun flag other ho => hsettled flag other (List.mem_cons_of_mem _ ho))
      (fun other ho => hwritten other (List.mem_cons_of_mem _ ho))

theorem nodup_requests (hdistinct : (articles.map Record.articleId).Nodup) (flag : Flag) :
    ((articles.map (setting.request flag)).map PlaceRequest.id).Nodup := by
  rw [List.map_map]
  exact hdistinct

/-- A pass after one over an orderly table changes nothing. -/
theorem pass_pass_of_orderly (hdocument : LayoutConfig.ofDocument document = .ok setting.config)
    (hnamed : ∀ article ∈ articles, Record.IsNamed article) (hdistinct : (articles.map Record.articleId).Nodup)
    (horderly : ∀ flag, PlaceRequest.Orderly (setting.config.limitOf flag) (articles.map (setting.request flag))
      (table.holders flag)) (h : setting.AllSmooth articles table)
    (hagain : setting.AllSmooth articles (setting.pass articles table)) :
    setting.pass articles (setting.pass articles table) = setting.pass articles table := by
  refine pass_eq_of_settled hdocument hnamed hagain (fun flag article hm => ?_) (isWritten_of_pass hnamed hdistinct h)
  rw [holders_pass hdocument hnamed h]
  exact (horderly flag).settle_settleAll (nodup_requests hdistinct flag) (List.mem_map_of_mem hm)

/-- **A third pass changes nothing**, whatever rows there were before the first. -/
theorem pass_pass_pass (hdocument : LayoutConfig.ofDocument document = .ok setting.config)
    (hnamed : ∀ article ∈ articles, Record.IsNamed article) (hdistinct : (articles.map Record.articleId).Nodup)
    (h : setting.AllSmooth articles table) (hagain : setting.AllSmooth articles (setting.pass articles table))
    (hlast : setting.AllSmooth articles (setting.pass articles (setting.pass articles table))) :
    setting.pass articles (setting.pass articles (setting.pass articles table)) =
      setting.pass articles (setting.pass articles table) := by
  refine pass_pass_of_orderly hdocument hnamed hdistinct (fun flag => ?_) hagain hlast
  rw [holders_pass hdocument hnamed h]
  exact PlaceRequest.orderly_settleAll _ _ (nodup_requests hdistinct flag)

/-- **A second pass over the empty table changes nothing.** -/
theorem pass_pass_empty (hdocument : LayoutConfig.ofDocument document = .ok setting.config)
    (hnamed : ∀ article ∈ articles, Record.IsNamed article) (hdistinct : (articles.map Record.articleId).Nodup)
    (h : setting.AllSmooth articles .empty) (hagain : setting.AllSmooth articles (setting.pass articles .empty)) :
    setting.pass articles (setting.pass articles .empty) = setting.pass articles .empty :=
  pass_pass_of_orderly hdocument hnamed hdistinct (fun _ => PlaceRequest.orderly_empty _ _) h hagain

/-- A flag is among the candidates of an article if it is left to a count. -/
theorem any_candidates_iff {config : LayoutConfig} :
    ((candidates config article).any fun c => c.1 == flag) = true ↔
      ∃ layout, flag.claim config article = .limited layout := by
  rw [List.any_eq_true]
  constructor
  · rintro ⟨⟨other, layout⟩, hm, he⟩
    obtain rfl : other = flag := eq_of_beq he
    exact ⟨layout, claim_of_mem_candidates hm⟩
  · rintro ⟨layout, hclaim⟩
    exact ⟨_, mem_candidates hclaim, beq_self_eq_true flag⟩

/-- An article wants a flag that has a limit if the flag is among its candidates. -/
theorem wants_eq_any_candidates (hdocument : LayoutConfig.ofDocument document = .ok setting.config)
    (hpos : 0 < setting.config.limitOf flag) (article : Record) :
    flag.wants setting.config article = (candidates setting.config article).any fun c => c.1 == flag := by
  rw [Bool.eq_iff_iff, any_candidates_iff]
  rcases Flag.claim_cases hdocument flag article with hclaim | ⟨hzero, -⟩ | ⟨-, layout, hclaim, -⟩
  · rw [Flag.wants, hclaim]
    simp
  · omega
  · rw [Flag.wants, hclaim]
    simp

/-- **After a pass over the empty table the first candidates hold a flag that has a limit.** -/
theorem holders_pass_empty (hdocument : LayoutConfig.ofDocument document = .ok setting.config)
    (hnamed : ∀ article ∈ articles, Record.IsNamed article) (hdistinct : (articles.map Record.articleId).Nodup)
    (h : setting.AllSmooth articles .empty) (hpos : 0 < setting.config.limitOf flag) :
    (setting.pass articles .empty).holders flag =
      (((articles.filter fun article => (candidates setting.config article).any fun c => c.1 == flag).take
        (setting.config.limitOf flag)).map Record.articleId).toFinset := by
  have hnone : Table.empty.holders flag = ∅ := rfl
  have hwants : PlaceRequest.wanted ∘ setting.request flag =
      fun article => (candidates setting.config article).any fun c => c.1 == flag :=
    funext fun article => wants_eq_any_candidates hdocument hpos article
  rw [holders_pass hdocument hnamed h, hnone, PlaceRequest.settleAll_empty hpos (nodup_requests hdistinct flag),
    List.filter_map, ← List.map_take, List.map_map, hwants]
  rfl

end

end Setting

end FrontPage
