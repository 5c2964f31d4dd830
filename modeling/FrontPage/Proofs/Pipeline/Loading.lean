import FrontPage.Proofs.Layout.Entries
import FrontPage.Proofs.Pipeline.Events

/-!
# Loading the layouts

A pipeline that has no configuration in its cache goes by the layout document in its store (`Pipeline.Consults`). The
entries of the document are loaded each for itself, a document of two parts having the layouts of the one and then
those of the other, but for one kind of entry: where one sets an infinite limit, nothing of the document is loaded and
the pipeline has no layouts (`Pipeline.loading_isolates`, `Pipeline.loading_lost`).
-/

namespace FrontPage

/-! ## Documents in parts -/

/-- A document of two parts can be loaded if both can, and has the layouts of the first and then those of the second. -/
theorem LayoutConfig.ofDocument_append {xs ys : List Value} {config : LayoutConfig} :
    ofDocument (.list (xs ++ ys)) = .ok config ↔
      ∃ first second, ofDocument (.list xs) = .ok first ∧ ofDocument (.list ys) = .ok second ∧
        config.active = first.active ++ second.active := by
  simp only [ofDocument_eq_ok_iff, List.mem_append, List.filterMap_append]
  constructor
  · rintro ⟨hfinite, hactive⟩
    have hxs : ∀ entry ∈ xs, ¬entry.SetsInfiniteLimit := fun entry hm => hfinite entry (.inl hm)
    have hys : ∀ entry ∈ ys, ¬entry.SetsInfiniteLimit := fun entry hm => hfinite entry (.inr hm)
    exact ⟨⟨xs.filterMap Layout.active?⟩, ⟨ys.filterMap Layout.active?⟩, ⟨hxs, rfl⟩, ⟨hys, rfl⟩, hactive⟩
  · rintro ⟨first, second, ⟨hxs, hfirst⟩, ⟨hys, hsecond⟩, hactive⟩
    constructor
    · intro entry hm
      rcases hm with hm | hm
      · exact hxs entry hm
      · exact hys entry hm
    · rw [hactive, hfirst, hsecond]

namespace Pipeline

/-! ## Pipelines -/

/-- The pipeline finds no configuration in its cache, and a certain document in its store. -/
structure Consults (pipeline : Pipeline) (document : Value) : Prop where
  uncached : pipeline.cache.live? layoutsEntry pipeline.time = none
  inOrder : pipeline.outages.document = none
  reads : pipeline.readLayouts 1 = .ok (some document)
  expires : ∃ expiry, pipeline.time.later pipeline.environment.layoutsTtl = .ok expiry

namespace Consults

variable {pipeline : Pipeline} {document : Value}

/-- The document decides on the configuration. -/
theorem documentConfig?_eq (h : pipeline.Consults document) :
    pipeline.documentConfig? = (LayoutConfig.ofDocument document).toOption := by
  have hread : ObjectStore.keyText pipeline.environment.layoutsKey >>= (pipeline.within 1).store.getJson? =
      .ok (some document) := h.reads
  rw [documentConfig?, hread, h.inOrder]

/-- The active layouts are those of the document if it can be loaded, and none otherwise. -/
theorem gives_activeLayouts (h : pipeline.Consults document) :
    ∃ after, Gives activeLayouts pipeline ((LayoutConfig.ofDocument document).toOption.getD .empty) after := by
  have htyped : ∀ value, pipeline.cache.live? Source.layouts.entry pipeline.time = some value →
      Source.layouts.IsOf value := by
    intro value hvalue
    have hnone : pipeline.cache.live? Source.layouts.entry pipeline.time = none := h.uncached
    rw [hnone] at hvalue
    cases hvalue
  obtain ⟨result, cache, metrics, hrun, houtcome⟩ := Source.run_read .layouts pipeline htyped
  have hresult : result = .ok (.layouts ((LayoutConfig.ofDocument document).toOption.getD .empty)) := by
    cases hconfig : (LayoutConfig.ofDocument document).toOption with
    | some config =>
      obtain ⟨expiry, hexpiry⟩ := h.expires
      refine (houtcome.of_value h.uncached ?_ hexpiry).1
      rw [Source.fresh, h.documentConfig?_eq, hconfig]
      rfl
    | none =>
      refine (houtcome.of_substitute h.uncached ?_).1
      rw [Source.fresh, h.documentConfig?_eq, hconfig]
      rfl
  rw [hresult] at hrun
  have hread : Gives Source.layouts.read pipeline _ _ := hrun
  exact ⟨_, Gives.of_map (fun _ _ hsame => by cases hsame; rfl) hread⟩

/-- So the pipeline has the layouts of the document, or none because of an entry with an infinite limit. -/
theorem gives_activeLayouts_iff {entries : List Value} {config : LayoutConfig} (h : pipeline.Consults (.list entries)) :
    (∃ after, Gives activeLayouts pipeline config after) ↔
      LayoutConfig.ofDocument (.list entries) = .ok config ∨
        (config = .empty ∧ ∃ entry ∈ entries, entry.SetsInfiniteLimit) := by
  obtain ⟨after, hgives⟩ := h.gives_activeLayouts
  have hgiven : (∃ after, Gives activeLayouts pipeline config after) ↔
      config = (LayoutConfig.ofDocument (.list entries)).toOption.getD .empty := by
    constructor
    · rintro ⟨other, hother⟩
      exact (hother.unique hgives).1
    · rintro rfl
      exact ⟨after, hgives⟩
  rw [hgiven]
  by_cases hinfinite : ∃ entry ∈ entries, entry.SetsInfiniteLimit
  · rw [LayoutConfig.ofDocument_eq_infiniteLimit hinfinite]
    simp [Except.toOption, hinfinite]
  · have hfinite : ∀ entry ∈ entries, ¬entry.SetsInfiniteLimit := by simpa using hinfinite
    have hloads : LayoutConfig.ofDocument (.list entries) = .ok ⟨entries.filterMap Layout.active?⟩ :=
      LayoutConfig.ofDocument_eq_ok_iff.mpr ⟨hfinite, rfl⟩
    rw [hloads]
    simp only [Except.toOption, Option.getD_some, Except.ok.injEq, hinfinite, and_false, or_false]
    exact eq_comm

end Consults

/-- A pipeline that holds nothing but a layout document consults it. -/
theorem consults_ofDocument {document : Value} {text : String} {chars : List Char} (htext : text = String.ofList chars)
    (hread : (Json.readWhole (mostSteps - 1 - readingSteps) chars).toOption = some document) :
    (ofDocument text).Consults document where
  uncached := rfl
  inOrder := rfl
  reads := readLayouts_ofDocument htext hread
  expires := ⟨.int 1300, rfl⟩

/-- **An entry takes no others with it, unless it sets an infinite limit.** A document without such an entry can be
loaded, and each of its entries gives the layout that it describes, if any, whatever the others are. A document of two
parts has the layouts of both. A pipeline that goes by a document has its layouts, and it has none in their place only
because of such an entry. -/
theorem loading_isolates (entries more : List Value) (config : LayoutConfig) :
    (LayoutConfig.ofDocument (.list entries) = .ok config ↔
      (∀ entry ∈ entries, ¬entry.SetsInfiniteLimit) ∧ config.active = entries.filterMap Layout.active?) ∧
    (LayoutConfig.ofDocument (.list (entries ++ more)) = .ok config ↔
      ∃ first second, LayoutConfig.ofDocument (.list entries) = .ok first ∧
        LayoutConfig.ofDocument (.list more) = .ok second ∧ config.active = first.active ++ second.active) ∧
    ∀ pipeline : Pipeline, pipeline.Consults (.list entries) →
      ((∃ after, Gives activeLayouts pipeline config after) ↔
        LayoutConfig.ofDocument (.list entries) = .ok config ∨
          (config = .empty ∧ ∃ entry ∈ entries, entry.SetsInfiniteLimit)) := by
  refine ⟨?_, ?_, ?_⟩
  · exact LayoutConfig.ofDocument_eq_ok_iff
  · exact LayoutConfig.ofDocument_append
  · intro pipeline hconsults
    exact hconsults.gives_activeLayouts_iff

/-- Entries of which most cannot be used: a number, one without a name, one whose limit is no number, one that is not in
use. -/
def spoiledEntries : List Value :=
  [ .int 5, .record [("active", .bool true)],
    .record [("layout_name", .text "A"), ("active", .bool true), ("layout_limit", .list [])],
    .record [("layout_name", .text "B"), ("active", .text "no")],
    .record [("layout_name", .int 7), ("active", .bool true), ("layout_limit", .int 2)] ]

/-- A layout document with these entries. -/
def spoiledText : String :=
  "[5, \x7b\"active\": true\x7d, \x7b\"layout_name\": \"A\", \"active\": true, \"layout_limit\": []\x7d, " ++
    "\x7b\"layout_name\": \"B\", \"active\": \"no\"\x7d, " ++
    "\x7b\"layout_name\": 7, \"active\": true, \"layout_limit\": 2\x7d]"

set_option maxRecDepth 8000 in
theorem consults_spoiledText : (ofDocument spoiledText).Consults (.list spoiledEntries) :=
  consults_ofDocument ofList_append_append (by decide +kernel)

/-- What can be used of them is loaded. -/
theorem loading_isolates_spoiledEntries : ∃ after,
    Gives activeLayouts (ofDocument spoiledText) ⟨[{ name := "A" }, { name := "7", limit := .int 2 }]⟩ after := by
  obtain ⟨hloads, -, hgives⟩ :=
    loading_isolates spoiledEntries [] ⟨[{ name := "A" }, { name := "7", limit := .int 2 }]⟩
  apply (hgives _ consults_spoiledText).mpr
  apply Or.inl
  apply hloads.mpr
  constructor
  · decide +kernel
  · decide +kernel

/-- An entry that is in use, and one that is not and sets an infinite limit. -/
def limitlessEntries : List Value :=
  [ .record [("layout_name", .text "A"), ("active", .bool true)],
    .record [("layout_name", .text "B"), ("active", .bool false), ("layout_limit", .number (.float (.infinite false)))] ]

/-- A layout document with these entries. -/
def limitlessText : String :=
  "[\x7b\"layout_name\": \"A\", \"active\": true\x7d, " ++ "\x7b\"layout_name\": \"B\", \"active\": false, " ++
    "\"layout_limit\": Infinity\x7d]"

set_option maxRecDepth 8000 in
theorem consults_limitlessText : (ofDocument limitlessText).Consults (.list limitlessEntries) :=
  consults_ofDocument ofList_append_append (by decide +kernel)

/-- The first entry is loaded when it is alone, but not with the second one, and then the pipeline has no layouts. -/
theorem loading_lost :
    LayoutConfig.ofDocument (.list (limitlessEntries.take 1)) = .ok ⟨[{ name := "A" }]⟩ ∧
    LayoutConfig.ofDocument (.list limitlessEntries) = .error .infiniteLimit ∧
    ∃ after, Gives activeLayouts (ofDocument limitlessText) .empty after := by
  have hlost : LayoutConfig.ofDocument (.list limitlessEntries) = .error .infiniteLimit := by decide +kernel
  refine ⟨by decide +kernel, hlost, ?_⟩
  obtain ⟨after, hgives⟩ := consults_limitlessText.gives_activeLayouts
  rw [hlost] at hgives
  exact ⟨after, hgives⟩

end Pipeline

end FrontPage
