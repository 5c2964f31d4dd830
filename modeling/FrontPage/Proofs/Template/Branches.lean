import FrontPage.Proofs.Template.BranchTags
import FrontPage.Proofs.Template.Evaluation

/-!
# The branches of a conditional

The tags in the body of a conditional divide it into branches (`Conditional.DividedInto`): the contents with the tags
put back between them are the body, each branch has the condition of its own tag, and none but the last is without one.
There is one such division of every body (`Conditional.exists_arranged`, `Conditional.branchesFrom_of_arranged`), and
the branches of a conditional are that. Behind the first Else tag of a body there is nothing but the content of the last
branch, and a record gets the first branch that is open to it, or nothing (`Conditional.branches_divide_body`).
-/

namespace FrontPage

open FrontPage.Text FrontPage.Tree

/-- The text of a branch: the tag that opened it, and its content. -/
def Branch.source (branch : Branch) : List Char := branch.tag ++ branch.content

/-- A branch is open to the records that pass its condition, and to all records if it has none. -/
def Branch.IsOpenTo (record : Record) (branch : Branch) : Prop :=
  ∀ condition, branch.condition = some condition → condition.holds record = true

/-! ## Divisions -/

/-- Branches as the tags of a body divide it. -/
structure Arranged (branches : List Branch) : Prop where
  /-- Each but the first has the condition of the tag that opened it, and none if that is an Else tag. -/
  opened : ∀ branch ∈ branches.tail, OpensBranch branch.condition branch.tag
  /-- Each but the last has a condition. -/
  condition_ne_none : ∀ branch ∈ branches.dropLast, branch.condition ≠ none
  /-- No tag is left in the content of a branch with a condition. -/
  not_hasTag : ∀ branch ∈ branches, branch.condition ≠ none → ∀ condition, ¬HasTag branch.content condition

/-- The body of a conditional is divided into branches. -/
structure Conditional.DividedInto (c : Conditional) (branches : List Branch) : Prop extends Arranged branches where
  /-- There is a first branch, which has the condition of the If tag and no tag of its own. -/
  first : ∃ content further, branches = ⟨[], some c.condition, content⟩ :: further
  /-- The contents with the tags between them are the body. -/
  source : branches.flatMap Branch.source = c.body

section

variable {first second : Branch} {further : List Branch}

theorem arranged_singleton_iff :
    Arranged [first] ↔ (first.condition ≠ none → ∀ condition, ¬HasTag first.content condition) :=
  ⟨fun h => h.not_hasTag first List.mem_cons_self, fun h => ⟨nofun, nofun, List.forall_mem_singleton.mpr h⟩⟩

/-- A branch with a condition stands in front of others that a tag opens. -/
theorem arranged_cons_cons_iff :
    Arranged (first :: second :: further) ↔ first.condition ≠ none ∧
      (∀ condition, ¬HasTag first.content condition) ∧ OpensBranch second.condition second.tag ∧
        Arranged (second :: further) := by
  constructor
  · intro h
    obtain ⟨hopens, hopened⟩ := List.forall_mem_cons.mp h.opened
    obtain ⟨hfirst, hcondition⟩ := List.forall_mem_cons.mp h.condition_ne_none
    obtain ⟨hfree, hnot⟩ := List.forall_mem_cons.mp h.not_hasTag
    exact ⟨hfirst, hfree hfirst, hopens, hopened, hcondition, hnot⟩
  · rintro ⟨hfirst, hfree, hopens, h⟩
    exact ⟨List.forall_mem_cons.mpr ⟨hopens, h.opened⟩, List.forall_mem_cons.mpr ⟨hfirst, h.condition_ne_none⟩,
      List.forall_mem_cons.mpr ⟨fun _ => hfree, h.not_hasTag⟩⟩

/-- An Else tag may follow branches that all have conditions. -/
theorem Arranged.concat (h : Arranged (first :: further)) (hall : ∀ branch ∈ first :: further, branch.condition ≠ none)
    {tag : List Char} (ht : OpensBranch none tag) (content : List Char) :
    Arranged (first :: further ++ [⟨tag, none, content⟩]) where
  opened := List.forall_mem_append.mpr ⟨h.opened, List.forall_mem_singleton.mpr ht⟩
  condition_ne_none := by
    rw [List.dropLast_concat]
    exact hall
  not_hasTag := List.forall_mem_append.mpr
    ⟨h.not_hasTag, List.forall_mem_singleton.mpr fun hnone => absurd rfl hnone⟩

end

namespace Conditional

/-- Every text is divided into branches behind the tag of the first. -/
theorem exists_arranged (tag : List Char) (condition : Condition) (text : List Char) :
    ∃ content further, Arranged (⟨tag, some condition, content⟩ :: further) ∧
      content ++ further.flatMap Branch.source = text := by
  induction hlength : text.length using Nat.strong_induction_on generalizing tag condition text with
  | _ length ih =>
    by_cases htext : ∃ condition, HasTag text condition
    · obtain ⟨other, hother⟩ := htext
      obtain ⟨content, next, tag', behind, hfree, hopens, rfl⟩ := hother.exists_first
      cases next with
      | none =>
        refine ⟨content, [⟨tag', none, behind⟩], arranged_cons_cons_iff.mpr ⟨nofun, hfree, hopens, ?_⟩, ?_⟩
        · exact arranged_singleton_iff.mpr fun hnone => absurd rfl hnone
        · simp [Branch.source]
      | some next =>
        have hshorter : behind.length < length := by
          have hpos := hopens.length_pos
          rw [← hlength, List.length_append, List.length_append]
          omega
        obtain ⟨content', further, harranged, rfl⟩ := ih _ hshorter tag' next behind rfl
        refine ⟨content, ⟨tag', some next, content'⟩ :: further,
          arranged_cons_cons_iff.mpr ⟨nofun, hfree, hopens, harranged⟩, ?_⟩
        simp [Branch.source]
    · exact ⟨text, [], arranged_singleton_iff.mpr fun _ => not_exists.mp htext, by simp⟩

/-- A text is what its characters and tags were scanned from. -/
theorem sourceText_scan (text : List Char) : sourceText (scan readTag? text) = text := by
  induction hlength : text.length using Nat.strong_induction_on generalizing text with
  | _ length ih =>
    cases text with
    | nil => rfl
    | cons c text =>
      cases hread : readTag? (c :: text) with
      | none =>
        rw [scan_cons_of_none hread]
        exact congrArg (c :: ·) (ih _ (by rw [← hlength]; simp) text rfl)
      | some mark =>
        obtain ⟨tag, rest⟩ := mark
        obtain ⟨hopens, htext⟩ := readTag?_eq_some_iff.mp hread
        have hpos := hopens.length_pos
        have hshorter : rest.length < length := by
          rw [← hlength, htext, List.length_append]
          omega
        rw [htext, scan_of_mark (List.ne_nil_of_length_pos hpos) (hopens.readTag? rest)]
        exact congrArg (tag.source ++ ·) (ih _ hshorter rest rfl)

/-- The scan of a divided text finds its branches. -/
theorem branchesFrom_of_arranged {tag content : List Char} {condition : Condition} {further : List Branch}
    (h : Arranged (⟨tag, some condition, content⟩ :: further)) :
    branchesFrom tag (some condition) (scan readTag? (content ++ further.flatMap Branch.source)) =
      ⟨tag, some condition, content⟩ :: further := by
  induction further generalizing tag content condition with
  | nil =>
    have hclear := clear_of_not_hasTag (arranged_singleton_iff.mp h nofun) (.inl rfl)
    rw [List.flatMap_nil, scan_of_clear hclear, branchesFrom_text rfl, List.append_nil]
  | cons branch further ih =>
    obtain ⟨-, hfree, hopens, hmore⟩ := arranged_cons_cons_iff.mp h
    obtain ⟨inner, -, hbraced⟩ := hopens.exists_braced
    have hfollows : ∃ more, (branch :: further).flatMap Branch.source = '{' :: '{' :: more :=
      ⟨_, by rw [List.flatMap_cons, Branch.source, hbraced]; rfl⟩
    have hclear := clear_of_not_hasTag hfree (.inr hfollows)
    have hfurther : branchesFrom tag (some condition) (scan readTag? ((branch :: further).flatMap Branch.source)) =
        ⟨tag, some condition, []⟩ :: branch :: further := by
      rw [List.flatMap_cons, Branch.source, List.append_assoc,
        scan_of_mark (List.ne_nil_of_length_pos hopens.length_pos) (hopens.readTag? _)]
      obtain ⟨source, next, inside⟩ := branch
      cases next with
      | some next => rw [branchesFrom, ih hmore]
      | none =>
        cases further with
        | nil => rw [branchesFrom, List.flatMap_nil, List.append_nil, sourceText_scan]
        | cons => exact absurd rfl (arranged_cons_cons_iff.mp hmore).1
    rw [scan_of_clear hclear, branchesFrom_text hfurther, List.append_nil]

/-- A conditional has the branches that its body is divided into. -/
theorem dividedInto_iff {c : Conditional} {branches : List Branch} :
    c.DividedInto branches ↔ branches = c.branches := by
  have hbranches {content : List Char} {further : List Branch}
      (h : Arranged (⟨[], some c.condition, content⟩ :: further))
      (hbody : content ++ further.flatMap Branch.source = c.body) :
      c.branches = ⟨[], some c.condition, content⟩ :: further := by
    rw [Conditional.branches, ← hbody, branchesFrom_of_arranged h]
  constructor
  · intro h
    obtain ⟨content, further, rfl⟩ := h.first
    exact (hbranches h.toArranged h.source).symm
  · rintro rfl
    obtain ⟨content, further, harranged, hbody⟩ := exists_arranged [] c.condition c.body
    rw [hbranches harranged hbody]
    exact ⟨harranged, ⟨content, further, rfl⟩, hbody⟩

/-- Behind the first Else tag is the content of the last branch. -/
theorem exists_branches_of_else {c : Conditional} {before tag behind : List Char} (ht : OpensBranch none tag)
    (hfirst : ¬HasTag before none) (hbody : c.body = before ++ (tag ++ behind)) :
    ∃ front, c.branches = front ++ [⟨tag, none, behind⟩] := by
  obtain ⟨content, further, harranged, hbefore⟩ := exists_arranged [] c.condition before
  refine ⟨⟨[], some c.condition, content⟩ :: further, (dividedInto_iff.mp ⟨?_, ⟨content, _, rfl⟩, ?_⟩).symm⟩
  · refine harranged.concat (List.forall_mem_cons.mpr ⟨nofun, fun branch hm hnone => hfirst ?_⟩) ht behind
    -- A branch without a condition would be opened by an Else tag in front of the first.
    obtain ⟨front, back, rfl⟩ := List.append_of_mem hm
    have hopens := harranged.opened branch hm
    rw [hnone] at hopens
    refine ⟨content ++ front.flatMap Branch.source, branch.tag, branch.content ++ back.flatMap Branch.source, hopens,
      ?_⟩
    rw [← hbefore]
    simp [Branch.source]
  · rw [hbody, ← hbefore]
    simp [Branch.source]

/-- A record gets the content of the first branch that is open to it, or nothing if none is. -/
theorem resolve_text_cases (record : Record) (c : Conditional) :
    (∃ front branch behind, c.branches = front ++ branch :: behind ∧ branch.IsOpenTo record ∧
      (∀ earlier ∈ front, ¬earlier.IsOpenTo record) ∧ (c.resolve record).text = branch.content) ∨
    (∀ branch ∈ c.branches, ¬branch.IsOpenTo record) ∧ (c.resolve record).text = [] := by
  have hopen (branch : Branch) :
      (branch.condition.map (·.holds record)).getD true = true ↔ branch.IsOpenTo record := by
    cases hc : branch.condition <;> simp [Branch.IsOpenTo, hc]
  cases hchoose : c.choose record with
  | some branch =>
    obtain ⟨hbranch, front, behind, hbranches, hfront⟩ := List.find?_eq_some_iff_append.mp hchoose
    refine .inl ⟨front, branch, behind, hbranches, (hopen branch).mp hbranch, fun earlier hm he => ?_, ?_⟩
    · have hnot := hfront earlier hm
      rw [(hopen earlier).mpr he] at hnot
      cases hnot
    · rw [resolve, hchoose]
  | none =>
    refine .inr ⟨fun branch hm he => List.find?_eq_none.mp hchoose branch hm ((hopen branch).mpr he), ?_⟩
    rw [resolve, hchoose]

/-- **Dividing the body of a conditional into branches loses and invents no text.** The branches are the only division
of the body: the first has the condition of the If tag and each further one that of the ElseIf tag in front of it, none
but the last can be without a condition, and the contents with the tags put back between them are the body. What follows
the first Else tag, further tags included, is the content of the last branch. A record gets the content of the first
branch that is open to it and of no other, or nothing if none is. -/
theorem branches_divide_body (c : Conditional) :
    (∀ branches, c.DividedInto branches ↔ branches = c.branches) ∧
    (∀ before tag behind, OpensBranch none tag → ¬HasTag before none → c.body = before ++ (tag ++ behind) →
      ∃ front, c.branches = front ++ [⟨tag, none, behind⟩]) ∧
    ∀ record,
      (∃ front branch behind, c.branches = front ++ branch :: behind ∧ branch.IsOpenTo record ∧
        (∀ earlier ∈ front, ¬earlier.IsOpenTo record) ∧ (c.resolve record).text = branch.content) ∨
      (∀ branch ∈ c.branches, ¬branch.IsOpenTo record) ∧ (c.resolve record).text = [] :=
  ⟨fun _ => dividedInto_iff, fun _ _ _ => exists_branches_of_else, fun record => resolve_text_cases record c⟩

/-- A body with tags in odd letter cases, next to each other and with one that has lost its condition, and with a
second Else tag and one more ElseIf tag behind the first. -/
theorem branches_divide_body_oddTags :
    let before := "W{{ELSEIf Counter<= 3}}{{ElſeIf  Title}}{{ElseIf}}T".toList
    let behind := "-{{ElseIf Title}}+{{Else}}".toList
    let body := before ++ (braced "elſe".toList ++ behind)
    let branches : List Branch :=
      [⟨[], some ⟨"Region", some ("=", "west")⟩, ['W']⟩,
       ⟨"{{ELSEIf Counter<= 3}}".toList, some ⟨"Counter", some ("<=", "3")⟩, []⟩,
       ⟨"{{ElſeIf  Title}}".toList, some ⟨"Title", none⟩, "{{ElseIf}}T".toList⟩,
       ⟨braced "elſe".toList, none, behind⟩]
    ¬HasTag before none ∧ DividedInto ⟨⟨"Region", some ("=", "west")⟩, body⟩ branches ∧
      ∃ front, branches = front ++ [⟨braced "elſe".toList, none, behind⟩] := by
  intro before behind body branches
  obtain ⟨hdivided, helse, -⟩ := branches_divide_body ⟨⟨"Region", some ("=", "west")⟩, body⟩
  have hfirst : ¬HasTag before none := by decide +kernel
  have hbranches : branches = Conditional.branches ⟨⟨"Region", some ("=", "west")⟩, body⟩ := by decide +kernel
  exact ⟨hfirst, (hdivided branches).mpr hbranches,
    hbranches ▸ helse before _ behind (.otherwise (by decide)) hfirst rfl⟩

end Conditional

end FrontPage
