import FrontPage.Template.Conditional
import Mathlib.Data.List.Find

/-!
# What conditions test

A conditional tests the fields that its If and ElseIf tags name, and nothing else of a record: records that agree on the
fields that a block tests get the same branches of it (`Conditional.choose_of_agree`), and the block leaves the same for
both (`resolveBlock_of_agree`).
-/

namespace FrontPage

/-- The records have the same values in some fields; a field that is lacking is as good as one with nothing in it. -/
def AgreeOn (fields : List String) (record other : Record) : Prop :=
  ∀ field ∈ fields, Record.get record field = Record.get other field

/-- The fields that the If and ElseIf tags of a conditional test. -/
def Conditional.testedFields (c : Conditional) : List String :=
  c.branches.filterMap fun branch => branch.condition.map Condition.field

/-- The fields that the conditionals of a block test. -/
def testedFields (block : List Char) : List String :=
  (Text.scan Conditional.read? block).flatMap fun
    | .inl _ => []
    | .inr c => c.testedFields

section

variable {record other : Record} {block : List Char} {c : Conditional}

/-- A condition looks at its own field only. -/
theorem Condition.holds_of_agree {condition : Condition}
    (h : Record.get record condition.field = Record.get other condition.field) :
    condition.holds record = condition.holds other := by
  rw [holds, holds, conditionHolds, conditionHolds, h]

/-- Records that agree on the tested fields get the same branch. -/
theorem Conditional.choose_of_agree (h : AgreeOn c.testedFields record other) : c.choose record = c.choose other := by
  refine List.find?_congr fun branch hm => ?_
  cases hcondition : branch.condition with
  | none => rfl
  | some condition =>
    have hfield : condition.field ∈ c.testedFields := List.mem_filterMap.mpr ⟨branch, hm, by rw [hcondition]; rfl⟩
    exact Condition.holds_of_agree (h _ hfield)

/-- What a conditional of a block tests is tested by the block. -/
theorem AgreeOn.of_mem_scan (h : AgreeOn (testedFields block) record other)
    (hm : .inr c ∈ Text.scan Conditional.read? block) : AgreeOn c.testedFields record other :=
  fun field hfield => h field (List.mem_flatMap.mpr ⟨.inr c, hm, hfield⟩)

theorem resolveMarks_of_agree {marks : List (Char ⊕ Conditional)}
    (h : ∀ c, .inr c ∈ marks → AgreeOn c.testedFields record other) :
    resolveMarks record marks = resolveMarks other marks := by
  induction marks with
  | nil => rfl
  | cons mark marks ih =>
    have hrest := ih fun c hm => h c (List.mem_cons_of_mem _ hm)
    cases mark with
    | inl c => rw [resolveMarks, resolveMarks, hrest]
    | inr c =>
      rw [resolveMarks, resolveMarks, hrest, Conditional.resolve, Conditional.resolve,
        Conditional.choose_of_agree (h c List.mem_cons_self)]

/-- A block leaves the same text and the same limit for records that agree on the fields that it tests. -/
theorem resolveBlock_of_agree (h : AgreeOn (testedFields block) record other) :
    resolveBlock record block = resolveBlock other block :=
  resolveMarks_of_agree fun _ hm => h.of_mem_scan hm

end

end FrontPage
