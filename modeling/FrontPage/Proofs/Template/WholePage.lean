import FrontPage.Proofs.Number.Order
import FrontPage.Proofs.Template.Repetition

/-!
# Pages with all articles

In a block whose conditions hold no numbers (`Unnumbered`) no branch sets a limit, so that the limit of the layout
stays. If there are no more articles than that, the page has all of them (`renderPage_of_unnumbered`).
-/

namespace FrontPage

/-- The page of a layout that has a block for every article between two texts. -/
def Layout.wholePage (layout : Layout) (before block behind : List Char) (articles : List Record) : Page where
  html := String.ofList (before ++ (blocksFrom block 0 articles).flatten ++ behind) ++ inElement "style" layout.css ++
    inElement "script" layout.script
  articleCount := articles.length

/-- No condition of an If or ElseIf tag in the block has a number in the place of its value. -/
def Unnumbered (block : List Char) : Prop :=
  ∀ conditional, .inr conditional ∈ Text.scan Conditional.read? block → ∀ branch ∈ conditional.branches,
    ∀ condition, branch.condition = some condition → condition.limit? = none

instance (block : List Char) : Decidable (Unnumbered block) :=
  decidable_of_iff
    (∀ mark ∈ Text.scan Conditional.read? block, ∀ branch ∈ (mark.getRight?.map Conditional.branches).getD [],
      branch.condition.bind Condition.limit? = none)
    ⟨fun h conditional hm branch hbranch condition hcondition => by
        have hnone := h _ hm branch hbranch
        rwa [hcondition] at hnone,
      fun h mark hm branch hbranch => by
        cases mark with
        | inl c => cases hbranch
        | inr conditional =>
          cases hcondition : branch.condition with
          | none => rfl
          | some condition => exact h conditional hm branch hbranch condition hcondition⟩

section

variable {block : List Char} {articles : List Record} {limit : Nat}

theorem matchedNumbers_of_unnumbered (h : Unnumbered block) (record : Record) : matchedNumbers record block = [] := by
  rw [matchedNumbers, List.filterMap_eq_nil_iff]
  intro mark hm
  cases mark with
  | inl c => rfl
  | inr conditional =>
    rw [matchedNumber?]
    cases hbranch : conditional.choose record with
    | none => rfl
    | some branch =>
      have hnone := h conditional hm branch (List.mem_of_find?_eq_some hbranch)
      cases hcondition : branch.condition with
      | none => simp [hcondition]
      | some condition => simp [hcondition, hnone condition hcondition]

theorem limitAfter_of_unnumbered (h : Unnumbered block) (first : Number) (position : Nat) :
    limitAfter block first articles position = first := by
  induction position with
  | zero => rfl
  | succ position ih =>
    rw [limitAfter, ih]
    cases articles[position]? with
    | none => rfl
    | some article => rw [Option.bind_some, matchedNumbers_of_unnumbered h, List.getLast?_nil, Option.getD_none]

/-- With a limit that is no smaller than their number all articles are shown. -/
theorem lastShown_of_unnumbered (h : Unnumbered block) (hroom : articles.length ≤ limit) :
    lastShown block (.int limit) articles = articles.length := by
  rw [lastShown]
  cases hfound : (List.range' 1 articles.length).find? (reachesLimit block (.int limit) articles) with
  | none => rfl
  | some position =>
    -- No position before that of the last article reaches the limit.
    have hreaches := List.find?_some hfound
    have hlt := (List.mem_range'_1.mp (List.mem_of_find?_eq_some hfound)).2
    rw [reachesLimit, limitAfter_of_unnumbered h, Number.lessEqual_int] at hreaches
    rw [Option.getD_some]
    omega

/-- **A page whose block sets no limit has all articles if there are no more than the limit of its layout.** -/
theorem renderPage_of_unnumbered {layout : Layout} {template before behind : List Char}
    (htemplate : layout.template = .ok template)
    (hskeleton : Skeleton.read template = .ok (.repeating before block behind)) (h : Unnumbered block)
    (hlimit : layout.limit = .int limit) (hroom : limit = 0 ∨ articles.length ≤ limit) :
    renderPage layout articles = .ok (layout.wholePage before block behind articles) := by
  have hshown : lastShown block (layout.firstLimit articles.length) articles = articles.length := by
    rw [Layout.firstLimit, hlimit]
    by_cases hzero : limit = 0
    · rw [if_pos (Number.isZero_int.mpr (by omega))]
      exact lastShown_of_unnumbered h (Nat.le_refl _)
    · rw [if_neg (mt Number.isZero_int.mp (by omega))]
      exact lastShown_of_unnumbered h (hroom.resolve_left hzero)
  rw [renderPage_of_repeating htemplate hskeleton, hshown, List.take_length, Layout.wholePage]

end

end FrontPage
