import FrontPage.Proofs.Template.Repetition
import Mathlib.Data.List.Basic

/-!
# Texts of articles on a page

What a page shows of an article is a row of literal characters and keys in which a text stands in the place of every key
(`renderBlock_text`). The row depends on the block, on the position and on the fields that the block tests
(`blockPieces_of_agree`); the texts are put in as they are and not looked at again. So nothing that is written in the
other fields of the articles can change the branches, the limits or the number of articles of a page
(`renderPage_inserts_verbatim`).
-/

namespace FrontPage

/-! ## Pieces -/

/-- The literal characters and the keys of placeholders that a block leaves for an article at a position. -/
def blockPieces (block : List Char) (position : Nat) (article : Record) : List (Char ⊕ String) :=
  Text.scan readPlaceholder? (resolveBlock (atPosition article position) block).text

/-- What stands in the place of a key for an article at a position: the position for the counter, and otherwise the text
of the article's field, nothing being empty. A key that the article lacks stands for its own placeholder. -/
def keyText (article : Record) (position : Nat) (key : String) : List Char :=
  if key = counterField then (toString position).toList
  else
    match Record.get? article key with
    | none => ['{', '{'] ++ key.toList ++ ['}', '}']
    | some .null => []
    | some value => value.toText.toList

/-- A row of literal characters and keys, with a text in the place of every key. -/
def fill (article : Record) (position : Nat) (pieces : List (Char ⊕ String)) : List Char :=
  pieces.flatMap fun
    | .inl c => [c]
    | .inr key => keyText article position key

theorem fieldText_atPosition (article : Record) (position : Nat) (key : String) :
    fieldText (atPosition article position) key = keyText article position key := by
  obtain ⟨hcounter, hothers⟩ := isViewOf_atPosition article position
  unfold fieldText keyText
  by_cases hkey : key = counterField
  · rw [if_pos hkey, hkey, hcounter]
    rfl
  · rw [if_neg hkey, hothers key hkey]
    cases Record.get? article key with
    | none => rfl
    | some value => cases value <;> rfl

/-- **What is shown of an article is its row with texts in the place of the keys.** -/
theorem renderBlock_text (block : List Char) (article : Record) (position : Nat) :
    (renderBlock block article position).text = fill article position (blockPieces block position article) := by
  have hfield : fieldText (atPosition article position) = keyText article position :=
    funext (fieldText_atPosition article position)
  show substitute (atPosition article position) (resolveBlock (atPosition article position) block).text = _
  rw [substitute, hfield]
  rfl

/-! ## Articles that agree on the tested fields -/

section

variable {block : List Char} {article other : Record}

/-- Articles that agree on some fields agree on them at any position; the counter is the position for both. -/
theorem AgreeOn.atPosition {fields : List String} (h : AgreeOn fields article other) (position : Nat) :
    AgreeOn fields (atPosition article position) (atPosition other position) := by
  intro field hfield
  obtain ⟨hcounter, hothers⟩ := isViewOf_atPosition article position
  obtain ⟨hcounter', hothers'⟩ := isViewOf_atPosition other position
  have hvalue := h field hfield
  unfold Record.get at hvalue ⊢
  by_cases hcase : field = counterField
  · rw [hcase, hcounter, hcounter']
  · rw [hothers field hcase, hothers' field hcase, hvalue]

/-- The row of an article depends on the block, the position and the tested fields only. -/
theorem blockPieces_of_agree (h : AgreeOn (testedFields block) article other) (position : Nat) :
    blockPieces block position article = blockPieces block position other := by
  unfold blockPieces
  rw [resolveBlock_of_agree (h.atPosition position)]

/-- So do the numbers in the conditions of the branches that the article gets. -/
theorem matchedNumbers_of_agree (h : AgreeOn (testedFields block) article other) (position : Nat) :
    matchedNumbers (atPosition article position) block = matchedNumbers (atPosition other position) block := by
  unfold matchedNumbers
  refine List.filterMap_congr fun mark hm => ?_
  cases mark with
  | inl c => rfl
  | inr c =>
    have hchoose := Conditional.choose_of_agree ((h.atPosition position).of_mem_scan hm)
    rw [matchedNumber?, matchedNumber?, hchoose]

end

section

variable {block : List Char} {articles others : List Record}

/-- Articles that agree on the tested fields one by one leave the same limits. -/
theorem limitAfter_of_agree (hlength : articles.length = others.length)
    (h : ∀ (i : Nat) (article other : Record), articles[i]? = some article → others[i]? = some other →
      AgreeOn (testedFields block) article other) (first : Number) (i : Nat) :
    limitAfter block first articles i = limitAfter block first others i := by
  induction i with
  | zero => rfl
  | succ i ih =>
    rw [limitAfter, limitAfter, ih]
    by_cases hi : i < articles.length
    · have hi' : i < others.length := hlength ▸ hi
      have hagree := h i articles[i] others[i] (List.getElem?_eq_getElem hi) (List.getElem?_eq_getElem hi')
      rw [List.getElem?_eq_getElem hi, List.getElem?_eq_getElem hi', Option.bind_some, Option.bind_some,
        matchedNumbers_of_agree hagree]
    · have hi' : ¬i < others.length := hlength ▸ hi
      rw [List.getElem?_eq_none (Nat.le_of_not_lt hi), List.getElem?_eq_none (Nat.le_of_not_lt hi')]

/-- They are shown up to the same position. -/
theorem lastShown_of_agree (hlength : articles.length = others.length)
    (h : ∀ (i : Nat) (article other : Record), articles[i]? = some article → others[i]? = some other →
      AgreeOn (testedFields block) article other) (first : Number) :
    lastShown block first articles = lastShown block first others := by
  have hreaches : reachesLimit block first articles = reachesLimit block first others := by
    funext position
    unfold reachesLimit
    rw [limitAfter_of_agree hlength h]
  unfold lastShown
  rw [hreaches, hlength]

end

/-! ## Pages -/

/-- The block that a layout repeats for every article; it is empty if the layout repeats none. -/
def Layout.block (layout : Layout) : List Char :=
  match layout.template.bind Skeleton.read with
  | .ok (.repeating _ block _) => block
  | _ => []

/-- The rows of some articles, with texts in the place of the keys. -/
def filledRows (block : List Char) (articles : List Record) : List (List Char) :=
  articles.mapIdx fun i article => fill article (i + 1) (blockPieces block (i + 1) article)

theorem blocksFrom_eq_filledRows (block : List Char) (articles : List Record) :
    blocksFrom block 0 articles = filledRows block articles := by
  unfold blocksFrom filledRows
  simp only [Nat.zero_add, renderBlock_text]

section

variable (layout : Layout)

/-- What the template of a layout makes of articles: no page, a page without any of them, or the rows of the articles
up to the last one shown in a frame that does not depend on them. -/
theorem renderPage_cases :
    (∃ cause, ∀ articles, renderPage layout articles = .error cause) ∨
    (∃ html, ∀ articles, renderPage layout articles = .ok ⟨html, 0⟩) ∨
    ∃ before behind : String, ∀ articles,
      let count := lastShown layout.block (layout.firstLimit articles.length) articles
      renderPage layout articles =
        .ok ⟨before ++ String.ofList (filledRows layout.block (articles.take count)).flatten ++ behind, count⟩ := by
  cases htemplate : layout.template with
  | error cause =>
    refine .inl ⟨cause, fun articles => ?_⟩
    rw [renderPage, htemplate]
    rfl
  | ok template =>
    have hread : layout.template.bind Skeleton.read = Skeleton.read template := by
      rw [htemplate]
      rfl
    cases hskeleton : Skeleton.read template with
    | error cause =>
      refine .inl ⟨cause, fun articles => ?_⟩
      rw [renderPage, htemplate]
      show (Skeleton.read template).bind _ = _
      rw [hskeleton]
      rfl
    | ok skeleton =>
      cases skeleton with
      | plain text =>
        refine .inr (.inl ⟨String.ofList text ++ inElement "style" layout.css ++ inElement "script" layout.script,
          fun articles => ?_⟩)
        rw [renderPage, htemplate]
        show (Skeleton.read template).bind _ = _
        rw [hskeleton]
        rfl
      | repeating before block behind =>
        have hblock : layout.block = block := by
          unfold Layout.block
          rw [hread, hskeleton]
        refine .inr (.inr ⟨String.ofList before,
          String.ofList behind ++ inElement "style" layout.css ++ inElement "script" layout.script,
          fun articles => ?_⟩)
        intro count
        rw [renderPage_of_repeating htemplate hskeleton, ← hblock, blocksFrom_eq_filledRows]
        simp only [String.ofList_append, String.append_assoc, count]

/-- **Texts of articles cannot steer a page.** If the articles of two lists agree one by one on the fields that the
conditionals of the block test, then each pair gets the same branches and sets the same limit, the limit is the same all
along, and both pages fail or show equally many articles. The row of an article depends on the block, the position and
the tested fields; and a page is the rows of its articles in a fixed frame, with the texts of the fields in the place of
their keys as they are. -/
theorem renderPage_inserts_verbatim {articles others : List Record} (hlength : articles.length = others.length)
    (hagree : ∀ (i : Nat) (article other : Record), articles[i]? = some article → others[i]? = some other →
      AgreeOn (testedFields layout.block) article other) :
    (∀ (i : Nat) (article other : Record), articles[i]? = some article → others[i]? = some other →
      (∀ c, .inr c ∈ Text.scan Conditional.read? layout.block →
        c.choose (atPosition article (i + 1)) = c.choose (atPosition other (i + 1))) ∧
      (renderBlock layout.block article (i + 1)).limit = (renderBlock layout.block other (i + 1)).limit) ∧
    (∀ i, limitAfter layout.block (layout.firstLimit articles.length) articles i =
      limitAfter layout.block (layout.firstLimit others.length) others i) ∧
    (renderPage layout articles).map Page.articleCount = (renderPage layout others).map Page.articleCount ∧
    (∀ position article other, AgreeOn (testedFields layout.block) article other →
      blockPieces layout.block position article = blockPieces layout.block position other) ∧
    ∃ before behind : String, ∀ items page, renderPage layout items = .ok page →
      page.articleCount ≤ items.length ∧
      page.html =
        before ++ String.ofList (filledRows layout.block (items.take page.articleCount)).flatten ++ behind := by
  have hfirst : layout.firstLimit articles.length = layout.firstLimit others.length := by rw [hlength]
  refine ⟨fun i article other harticle hother => ⟨fun c hm => ?_, ?_⟩, fun i => ?_, ?_, fun position _ _ h =>
    blockPieces_of_agree h position, ?_⟩
  · exact Conditional.choose_of_agree (((hagree i article other harticle hother).atPosition (i + 1)).of_mem_scan hm)
  · have hresolved := resolveBlock_of_agree ((hagree i article other harticle hother).atPosition (i + 1))
    rw [renderBlock, renderBlock, hresolved]
  · rw [hfirst]
    exact limitAfter_of_agree hlength hagree _ i
  · have hshown := lastShown_of_agree hlength hagree (layout.firstLimit others.length)
    rcases renderPage_cases layout with ⟨cause, h⟩ | ⟨html, h⟩ | ⟨before, behind, h⟩
    · rw [h, h]
    · rw [h, h]
    · rw [h, h, hfirst, hshown]
      rfl
  · rcases renderPage_cases layout with ⟨cause, h⟩ | ⟨html, h⟩ | ⟨before, behind, h⟩
    · refine ⟨"", "", fun items page hpage => ?_⟩
      rw [h] at hpage
      cases hpage
    · refine ⟨html, "", fun items page hpage => ?_⟩
      rw [h] at hpage
      cases hpage
      exact ⟨Nat.zero_le _, by simp [filledRows]⟩
    · refine ⟨before, behind, fun items page hpage => ?_⟩
      rw [h] at hpage
      cases hpage
      exact ⟨lastShown_le _ _ _, rfl⟩

end

/-- A layout that marks its articles by rank and shows their titles. -/
def ranked : Layout where
  name := "Ranked"
  body := .text (String.ofList (repeatBeginTag ++ placeholder "If rank > 5" ++ ['*'] ++ placeholder "EndIf" ++
    placeholder "Title" ++ repeatEndTag))

/-- Titles that spell tags of a template are shown as they are, and as many articles as for other titles. -/
theorem renderPage_ranked :
    let spelling := placeholder "If Counter <= 1" ++ placeholder "EndIf" ++ repeatEndTag
    let plain : List Record := [[("Title", .text "a"), ("rank", .int 7)], [("Title", .text "b")]]
    let spelt : List Record :=
      [[("Title", .text (String.ofList spelling)), ("rank", .int 7)],
        [("Title", .text (String.ofList (placeholder "Title")))]]
    renderPage ranked plain = .ok ⟨"*ab", 2⟩ ∧
    (renderPage ranked plain).map Page.articleCount = (renderPage ranked spelt).map Page.articleCount ∧
    renderPage ranked spelt = .ok ⟨"*" ++ String.ofList (spelling ++ placeholder "Title"), 2⟩ := by
  intro spelling plain spelt
  have hfields : testedFields ranked.block = ["rank"] := by decide +kernel
  have hagree : ∀ (i : Nat) (article other : Record), plain[i]? = some article → spelt[i]? = some other →
      AgreeOn (testedFields ranked.block) article other := by
    intro i article other harticle hother
    rw [hfields]
    intro field hfield
    rw [List.mem_singleton.mp hfield]
    match i with
    | 0 =>
      cases harticle
      cases hother
      rfl
    | 1 =>
      cases harticle
      cases hother
      rfl
    | i + 2 =>
      have hnone : plain[i + 2]? = none := rfl
      rw [hnone] at harticle
      cases harticle
  have hlength : plain.length = spelt.length := rfl
  obtain ⟨-, -, hcount, -⟩ := renderPage_inserts_verbatim ranked hlength hagree
  exact ⟨by decide +kernel, hcount, by decide +kernel⟩

end FrontPage
