import FrontPage.Proofs.Template.Tests
import FrontPage.Proofs.Text.Occurrence
import FrontPage.Template.Page

/-!
# What a page repeats

The block of a page is repeated under a limit that the block itself may change. `limitAfter` says what the limit is
after each article, and `lastShown` is the first position that reaches it: the loop shows exactly the articles up to
there (`renderRepeats_eq`). With the places of the repeat tags this describes the whole page (`renderPage_eq`). What is
shown of an article depends on its position and its other fields only (`renderBlock_eq`).
-/

namespace FrontPage

open Text (FirstAt OccursAt)

/-! ## Views of an article -/

/-- Two records have the same fields. -/
def SameFields (record other : Record) : Prop := ∀ key, Record.get? record key = Record.get? other key

section

variable {record other : Record}

/-- A block leaves the same for records with the same fields. -/
theorem resolveBlock_congr (h : SameFields record other) (block : List Char) :
    resolveBlock record block = resolveBlock other block :=
  resolveBlock_of_agree fun field _ => by rw [Record.get, Record.get, h field]

/-- Placeholders show the same for records with the same fields. -/
theorem substitute_congr (h : SameFields record other) (text : List Char) :
    substitute record text = substitute other text := by
  have hfield : fieldText record = fieldText other := by
    funext key
    rw [fieldText, fieldText, h key]
  rw [substitute, substitute, hfield]

end

/-- A view of an article at a position: a record with the position in its counter, and otherwise with the fields of
the article. -/
def IsViewOf (article : Record) (position : Nat) (view : Record) : Prop :=
  Record.get? view counterField = some (.int position) ∧
    ∀ key, key ≠ counterField → Record.get? view key = Record.get? article key

/-- The loop gives each article such a view. -/
theorem isViewOf_atPosition (article : Record) (position : Nat) :
    IsViewOf article position (atPosition article position) :=
  ⟨Record.get?_set_self _ _ _, fun _ h => Record.get?_set_of_ne _ _ h⟩

/-- Two views of an article at a position have the same fields. -/
theorem IsViewOf.sameFields {article view other : Record} {position : Nat} (hv : IsViewOf article position view)
    (ho : IsViewOf article position other) : SameFields view other := by
  intro key
  by_cases h : key = counterField
  · rw [h, hv.1, ho.1]
  · rw [hv.2 key h, ho.2 key h]

/-- What is shown of an article at a position is what any such view of it shows. -/
theorem renderBlock_eq {article view : Record} {position : Nat} (h : IsViewOf article position view)
    (block : List Char) : renderBlock block article position =
      ⟨substitute view (resolveBlock view block).text, (resolveBlock view block).limit⟩ := by
  have hsame := (isViewOf_atPosition article position).sameFields h
  rw [renderBlock, resolveBlock_congr hsame, substitute_congr hsame]

/-! ## Limits -/

/-- The number in the condition of the branch that a mark of a block leads to, if there is one. -/
def matchedNumber? (record : Record) : Char ⊕ Conditional → Option Number
  | .inl _ => none
  | .inr conditional => (conditional.choose record).bind fun branch => branch.condition.bind Condition.limit?

/-- The numbers in the conditions of the branches that a record gets of a block, in order. -/
def matchedNumbers (record : Record) (block : List Char) : List Number :=
  (Text.scan Conditional.read? block).filterMap (matchedNumber? record)

/-- The limit that a block sets is the last of these numbers. -/
theorem resolveBlock_limit (record : Record) (block : List Char) :
    (resolveBlock record block).limit = (matchedNumbers record block).getLast? := by
  rw [resolveBlock, matchedNumbers]
  induction Text.scan Conditional.read? block with
  | nil => rfl
  | cons mark marks ih =>
    cases mark with
    | inl c => exact ih
    | inr c =>
      have hfirst : (c.resolve record).limit = matchedNumber? record (.inr c) := by
        rw [Conditional.resolve, matchedNumber?]
        cases c.choose record <;> rfl
      show ((resolveMarks record marks).limit.orElse fun _ => (c.resolve record).limit) = _
      rw [ih, hfirst, List.filterMap_cons]
      cases matchedNumber? record (.inr c) with
      | none => cases (marks.filterMap (matchedNumber? record)).getLast? <;> rfl
      | some n =>
        show _ = (n :: marks.filterMap (matchedNumber? record)).getLast?
        rw [List.getLast?_cons]
        cases (marks.filterMap (matchedNumber? record)).getLast? <;> rfl

section

variable (block : List Char) (first : Number) (articles : List Record)

/-- The limit after some articles: the last number that the block matched for the last one of them, or the limit that
was there before it. -/
def limitAfter : Nat → Number
  | 0 => first
  | i + 1 =>
    (articles[i]?.bind fun article => (matchedNumbers (atPosition article (i + 1)) block).getLast?).getD (limitAfter i)

/-- A position reaches the limit that there is after its article. -/
def reachesLimit (position : Nat) : Bool := (limitAfter block first articles position).lessEqual (.int position)

/-- The first position that reaches the limit, or the last one if none does. -/
def lastShown : Nat :=
  ((List.range' 1 articles.length).find? (reachesLimit block first articles)).getD articles.length

/-- The blocks of some articles that are at the positions behind a given one. -/
def blocksFrom (done : Nat) (shown : List Record) : List (List Char) :=
  shown.mapIdx fun i article => (renderBlock block article (done + i + 1)).text

end

/-- The blocks of a first article and of others. -/
theorem blocksFrom_cons (block : List Char) (done : Nat) (article : Record) (others : List Record) :
    blocksFrom block done (article :: others) =
      (renderBlock block article (done + 1)).text :: blocksFrom block (done + 1) others := by
  rw [blocksFrom, List.mapIdx_cons, blocksFrom]
  simp only [Nat.add_zero, Nat.add_assoc, Nat.add_comm 1]

/-- The loop, with some articles done, shows the others up to the first position that reaches the limit. -/
theorem renderRepeats_of_drop (block : List Char) (first : Number) {articles : List Record} {done : Nat}
    {others : List Record} (h : articles.drop done = others) :
    renderRepeats block (limitAfter block first articles done) (done + 1) others =
      blocksFrom block done (others.take
        (((List.range' (done + 1) others.length).find? (reachesLimit block first articles)).elim others.length
          fun position => position - done)) := by
  -- The induction is on the articles left; the limit of the loop is always the one after those that are done.
  induction others generalizing done with
  | nil => rw [List.take_nil, renderRepeats, blocksFrom, List.mapIdx_nil]
  | cons article others ih =>
    have hget : articles[done]? = some article := by
      rw [← List.head?_drop, h]
      rfl
    have hrest : articles.drop (done + 1) = others := by
      rw [← List.tail_drop, h]
      rfl
    have hlimit : ((renderBlock block article (done + 1)).limit).getD (limitAfter block first articles done) =
        limitAfter block first articles (done + 1) := by
      rw [limitAfter, hget, Option.bind_some, ← resolveBlock_limit]
      rfl
    have hreaches : (limitAfter block first articles (done + 1)).lessEqual (.int ((done + 1 : Nat) : Int)) =
        reachesLimit block first articles (done + 1) := rfl
    rw [renderRepeats, hlimit, hreaches, List.length_cons, List.range'_succ, List.find?_cons]
    cases reachesLimit block first articles (done + 1) with
    | true =>
      rw [if_pos rfl, Option.elim_some, Nat.add_sub_cancel_left, List.take_succ_cons, List.take_zero, blocksFrom_cons]
      rfl
    | false =>
      have hcount : ((List.range' (done + 1 + 1) others.length).find? (reachesLimit block first articles)).elim
            (others.length + 1) (fun position => position - done) =
          ((List.range' (done + 1 + 1) others.length).find? (reachesLimit block first articles)).elim others.length
            (fun position => position - (done + 1)) + 1 := by
        cases hf : (List.range' (done + 1 + 1) others.length).find? (reachesLimit block first articles) with
        | none => rfl
        | some position =>
          have hle := (List.mem_range'_1.mp (List.mem_of_find?_eq_some hf)).1
          simp only [Option.elim_some]
          omega
      rw [if_neg (by decide), ih hrest, hcount, List.take_succ_cons, blocksFrom_cons]

/-- **The loop shows the articles up to the first position that reaches the limit**, or all of them. -/
theorem renderRepeats_eq (block : List Char) (first : Number) (articles : List Record) :
    renderRepeats block first 1 articles =
      blocksFrom block 0 (articles.take (lastShown block first articles)) := by
  have h := renderRepeats_of_drop block first (List.drop_zero (l := articles))
  have hcount : ((List.range' 1 articles.length).find? (reachesLimit block first articles)).elim articles.length
      (fun position => position - 0) = lastShown block first articles := by
    rw [lastShown]
    cases (List.range' 1 articles.length).find? (reachesLimit block first articles) <;> rfl
  rw [Nat.zero_add, hcount] at h
  exact h

/-- The last position shown is one of an article, if there is any. -/
theorem lastShown_le (block : List Char) (first : Number) (articles : List Record) :
    lastShown block first articles ≤ articles.length := by
  rw [lastShown]
  cases hf : (List.range' 1 articles.length).find? (reachesLimit block first articles) with
  | none => exact Nat.le_refl _
  | some position =>
    have hlt := (List.mem_range'_1.mp (List.mem_of_find?_eq_some hf)).2
    simp only [Option.getD_some]
    omega

/-- As many articles are shown as the last position shown says. -/
theorem length_renderRepeats (block : List Char) (first : Number) (articles : List Record) :
    (renderRepeats block first 1 articles).length = lastShown block first articles := by
  rw [renderRepeats_eq, blocksFrom, List.length_mapIdx, List.length_take, Nat.min_eq_left (lastShown_le _ _ _)]

/-! ## Skeletons -/

/-- Neither repeat tag shares a character with the other. -/
theorem apart_repeatTags : Text.Apart repeatBeginTag repeatEndTag ∧ Text.Apart repeatEndTag repeatBeginTag := by
  decide +kernel

section

variable {text : List Char} {b e : Nat}

/-- A body whose first end tag stands before its first begin tag has no skeleton. -/
theorem Skeleton.read_of_endsFirst (hb : FirstAt repeatBeginTag text b) (he : FirstAt repeatEndTag text e)
    (h : e < b) : Skeleton.read text = .error .repeatEndsFirst := by
  have hend : OccursAt repeatEndTag (text.take b) e :=
    (Text.occursAt_take (by decide)).mpr ⟨he.1, he.1.length_le hb.1 apart_repeatTags.2 (Nat.le_of_lt h)⟩
  rw [Skeleton.read, Text.cut?_of_firstAt hb]
  exact if_pos (Text.cut?_isSome_iff.mpr ⟨e, hend⟩)

/-- A body in which the first repeat tags stand in order has the block between them, and the texts around. -/
theorem Skeleton.read_of_inOrder (hb : FirstAt repeatBeginTag text b) (he : FirstAt repeatEndTag text e)
    (h : b ≤ e) : Skeleton.read text = .ok (.repeating (text.take b)
      ((text.take e).drop (b + repeatBeginTag.length)) (text.drop (e + repeatEndTag.length))) := by
  have hle : b + repeatBeginTag.length ≤ e := hb.1.length_le he.1 apart_repeatTags.1 h
  have hbefore : ∀ k, ¬OccursAt repeatEndTag (text.take b) k := by
    intro k hk
    obtain ⟨hk, hkb⟩ := (Text.occursAt_take (by decide)).mp hk
    have hpos : 0 < repeatEndTag.length := by decide
    exact he.2 k (by omega) hk
  have hrest : FirstAt repeatEndTag (text.drop (b + repeatBeginTag.length)) (e - (b + repeatBeginTag.length)) := by
    refine ⟨Text.occursAt_drop.mpr ?_, fun j hj hk => he.2 _ (by omega) (Text.occursAt_drop.mp hk)⟩
    rw [Nat.add_sub_cancel' hle]
    exact he.1
  rw [Skeleton.read, Text.cut?_of_firstAt hb]
  simp only [Text.cut?_of_absent hbefore, Text.cut?_of_firstAt hrest]
  rw [List.drop_drop, List.drop_take, ← Nat.add_assoc, Nat.add_sub_cancel' hle]
  rfl

/-- A body that lacks one of the repeat tags is one text. -/
theorem Skeleton.read_of_absent
    (h : (∀ k, ¬OccursAt repeatBeginTag text k) ∨ ∀ k, ¬OccursAt repeatEndTag text k) :
    Skeleton.read text = .ok (.plain text) := by
  by_cases hb : ∃ k, OccursAt repeatBeginTag text k
  · have he : ∀ k, ¬OccursAt repeatEndTag text k := h.resolve_left fun hn => absurd hb (not_exists.mpr hn)
    obtain ⟨k, hk⟩ := hb
    obtain ⟨b, hb⟩ := hk.exists_firstAt
    have hbefore : ∀ k, ¬OccursAt repeatEndTag (text.take b) k := fun k hk =>
      he k ((Text.occursAt_take (by decide)).mp hk).1
    have hrest : ∀ k, ¬OccursAt repeatEndTag (text.drop (b + repeatBeginTag.length)) k := fun k hk =>
      he _ (Text.occursAt_drop.mp hk)
    rw [Skeleton.read, Text.cut?_of_firstAt hb]
    simp only [Text.cut?_of_absent hbefore, Text.cut?_of_absent hrest]
    rfl
  · rw [Skeleton.read, Text.cut?_of_absent (not_exists.mp hb)]

end

/-! ## Pages -/

/-- The template of a layout whose body and display name are texts. -/
theorem Layout.template_of_text {layout : Layout} {body name : String} (hbody : layout.body = .text body)
    (hname : layout.displayName = .text name) :
    layout.template = .ok (Text.replaceAll displayNameTag name.toList body.toList) := by
  have horElse : ∀ s : String, (Value.text s).orElse (.text "") = .text s := by
    intro s
    by_cases hs : s = ""
    · rw [hs]
      rfl
    · simp [Value.orElse, Value.holds, hs]
  rw [Layout.template, hbody, hname, horElse, horElse]

/-- The page of a layout with a block to repeat: the blocks of the articles up to the first position that reaches the
limit, between the texts around the block, and style and script of the layout behind. -/
theorem renderPage_of_repeating {layout : Layout} {template before block behind : List Char}
    (htemplate : layout.template = .ok template)
    (hskeleton : Skeleton.read template = .ok (.repeating before block behind)) (articles : List Record) :
    renderPage layout articles =
      .ok ⟨String.ofList (before ++ (blocksFrom block 0
          (articles.take (lastShown block (layout.firstLimit articles.length) articles))).flatten ++ behind) ++
          inElement "style" layout.css ++ inElement "script" layout.script,
        lastShown block (layout.firstLimit articles.length) articles⟩ := by
  have hcount := length_renderRepeats block (layout.firstLimit articles.length) articles
  rw [renderPage, htemplate]
  show (Skeleton.read template).bind _ = _
  rw [hskeleton, ← renderRepeats_eq, ← hcount]
  rfl

/-- A layout whose block sets a lower limit than its own. -/
def headlines : Layout where
  name := "Headlines"
  body := .text (String.ofList (displayNameTag ++ [':'] ++ repeatBeginTag ++ ['['] ++ placeholder "Title" ++
    placeholder "If Counter <= 2" ++ [','] ++ placeholder "EndIf" ++ [']'] ++ repeatEndTag ++ ['!']))
  displayName := .text "News"
  limit := .int 5

end FrontPage
