import FrontPage.Proofs.Template.Reading
import FrontPage.Proofs.Text.Trimming

/-!
# Tags that open branches

`OpensBranch` relates the condition of a further branch to the texts of the tags that open it: the ElseIf tags with that
condition, or the Else tags where there is none. What is read of a condition was written (`exists_test_of_read?`), so
that a tag is read off exactly the texts that begin with one (`readTag?_eq_some_iff`). A tag has no opening brace but
its own two (`OpensBranch.exists_braced`), and therefore no two tags share a character: a text with no tag in it is
clear, even if a tag follows it (`clear_of_not_hasTag`), and of the tags in a text there is a first
(`HasTag.exists_first`).
-/

namespace FrontPage.Tree

open FrontPage.Text

/-! ## Conditions that are read -/

/-- An operator and a value that a tag can compare a field with. -/
structure IsComparison (operator value : String) : Prop where
  operator_ne_nil : operator.toList ≠ []
  operator_length_le : operator.toList.length ≤ 2
  isOperatorChar_of_mem : ∀ c ∈ operator.toList, Condition.isOperatorChar c = true
  value_ne_nil : value.toList ≠ []
  isValueChar_of_mem : ∀ c ∈ value.toList, Condition.isValueChar c = true

/-- A field that is not compared with anything, as the test of a tag. -/
def Test.bare (field : String) (hne : field.toList ≠ []) (hword : ∀ c ∈ field.toList, isWordChar c = true) : Test where
  condition := ⟨field, none⟩
  field_ne_nil := hne
  isWordChar_of_mem := hword
  operator_ne_nil := nofun
  operator_length_le := nofun
  isOperatorChar_of_mem := nofun
  value_ne_nil := nofun
  isValueChar_of_mem := nofun

/-- A field that is compared, as the test of a tag. -/
def Test.compared (field operator value : String) (hne : field.toList ≠ [])
    (hword : ∀ c ∈ field.toList, isWordChar c = true) (h : IsComparison operator value) : Test where
  condition := ⟨field, some (operator, value)⟩
  field_ne_nil := hne
  isWordChar_of_mem := hword
  operator_ne_nil := fun _ e => Option.some.inj e ▸ h.operator_ne_nil
  operator_length_le := fun _ e => Option.some.inj e ▸ h.operator_length_le
  isOperatorChar_of_mem := fun _ e => Option.some.inj e ▸ h.isOperatorChar_of_mem
  value_ne_nil := fun _ e => Option.some.inj e ▸ h.value_ne_nil
  isValueChar_of_mem := fun _ e => Option.some.inj e ▸ h.isValueChar_of_mem

/-- An operator and a value that are read were written, with blanks before each of them. -/
theorem exists_of_readComparison? {text rest : List Char} {operator value : String}
    (h : Condition.readComparison? text = some ((operator, value), rest)) :
    IsComparison operator value ∧ ∃ before behind, Blanks before ∧ Blanks behind ∧
      text = before ++ (operator.toList ++ (behind ++ (value.toList ++ '}' :: '}' :: rest))) := by
  simp only [Condition.readComparison?] at h
  split at h
  case isTrue => cases h
  case isFalse hshape =>
  simp only [Bool.or_eq_true, List.isEmpty_iff, decide_eq_true_eq, not_or, Nat.not_lt] at hshape
  obtain ⟨⟨hop, hlen⟩, hval⟩ := hshape
  obtain ⟨left, hclose, he⟩ := Option.map_eq_some_iff.mp h
  obtain ⟨⟨rfl, rfl⟩, rfl⟩ : (_ ∧ _) ∧ left = rest := by simpa only [Prod.mk.injEq] using he
  have hright := after?_eq_some_iff.mp hclose
  refine ⟨⟨?_, ?_, ?_, ?_, ?_⟩, text.takeWhile isBlank,
    ((text.dropWhile isBlank).dropWhile Condition.isOperatorChar).takeWhile isBlank,
    fun c hc => List.mem_takeWhile_imp hc, fun c hc => List.mem_takeWhile_imp hc, ?_⟩
  · rwa [String.toList_ofList]
  · rwa [String.toList_ofList]
  · rw [String.toList_ofList]
    exact fun c hc => List.mem_takeWhile_imp hc
  · rwa [String.toList_ofList]
  · rw [String.toList_ofList]
    exact fun c hc => List.mem_takeWhile_imp hc
  · have hclosing : '}' :: '}' :: left = ['}', '}'] ++ left := rfl
    rw [String.toList_ofList, String.toList_ofList, hclosing, ← hright, List.takeWhile_append_dropWhile,
      List.takeWhile_append_dropWhile, List.takeWhile_append_dropWhile, List.takeWhile_append_dropWhile]

/-- A condition that is read was written, with at least one blank before it and the closing braces behind it. -/
theorem exists_test_of_read? {text rest : List Char} {condition : Condition}
    (h : Condition.read? text = some (condition, rest)) :
    ∃ (test : Test) (blanks written : List Char), test.condition = condition ∧ Blanks blanks ∧ blanks ≠ [] ∧
      WritesCondition condition written ∧ text = blanks ++ (written ++ '}' :: '}' :: rest) := by
  simp only [Condition.read?] at h
  split at h
  case isTrue => cases h
  case isFalse hshape =>
  simp only [Bool.or_eq_true, Bool.not_eq_true', List.isEmpty_iff, not_or, Bool.not_eq_false] at hshape
  obtain ⟨hhead, hfield⟩ := hshape
  have hblanks : Blanks (text.takeWhile isBlank) := fun c hc => List.mem_takeWhile_imp hc
  have hne : text.takeWhile isBlank ≠ [] := by
    cases text with
    | nil => cases hhead
    | cons c text =>
      have hc : isBlank c = true := hhead
      simp [hc]
  have hword : ∀ c ∈ (text.dropWhile isBlank).takeWhile isWordChar, isWordChar c = true :=
    fun c hc => List.mem_takeWhile_imp hc
  have htext : text = text.takeWhile isBlank ++ ((text.dropWhile isBlank).takeWhile isWordChar ++
      (text.dropWhile isBlank).dropWhile isWordChar) := by
    rw [List.takeWhile_append_dropWhile, List.takeWhile_append_dropWhile]
  generalize text.takeWhile isBlank = blanks at *
  generalize (text.dropWhile isBlank).takeWhile isWordChar = field at *
  generalize (text.dropWhile isBlank).dropWhile isWordChar = behind at *
  rw [← String.toList_ofList (l := field)] at hfield hword htext
  split at h
  case h_1 left hclose =>
    obtain ⟨rfl, rfl⟩ : _ ∧ left = rest := by simpa only [Option.some.injEq, Prod.mk.injEq] using h
    refine ⟨.bare _ hfield hword, blanks, _, rfl, hblanks, hne, .bare _, ?_⟩
    rw [after?_eq_some_iff.mp hclose] at htext
    exact htext
  case h_2 =>
    obtain ⟨⟨⟨operator, value⟩, left⟩, hread, he⟩ := Option.map_eq_some_iff.mp h
    obtain ⟨rfl, rfl⟩ : _ ∧ left = rest := by simpa only [Prod.mk.injEq] using he
    obtain ⟨hcomparison, before, after, hbefore, hafter, hbehind⟩ := exists_of_readComparison? hread
    refine ⟨.compared _ operator value hfield hword hcomparison, blanks, _, rfl, hblanks, hne,
      .compared _ operator value hbefore hafter, ?_⟩
    rw [htext, hbehind]
    simp only [List.append_assoc]

/-! ## Tags -/

/-- The texts of the tags that open a further branch with a condition, or with none. -/
inductive OpensBranch : Option Condition → List Char → Prop
  | elseIf (test : Test) {tag : List Char} : WritesTag ['e', 'l', 's', 'e', 'i', 'f'] test.condition tag →
      OpensBranch (some test.condition) tag
  | otherwise {spelled : List Char} : Spells ['e', 'l', 's', 'e'] spelled → OpensBranch none (braced spelled)

/-- There is no opening brace between the braces of a tag. -/
theorem OpensBranch.exists_braced {condition : Option Condition} {tag : List Char} (h : OpensBranch condition tag) :
    ∃ inner, '{' ∉ inner ∧ tag = braced inner := by
  cases h with
  | elseIf test h =>
    obtain @⟨spelled, blanks, text, hs, hb, -, hw⟩ := h
    refine ⟨_, ?_, rfl⟩
    simp only [List.mem_append, not_or]
    exact ⟨hs.not_mem (by decide), fun hm => absurd (hb _ hm) (by decide), brace_notMem_condition test hw⟩
  | otherwise hs => exact ⟨_, hs.not_mem (by decide), rfl⟩

/-- There is something in a tag. -/
theorem OpensBranch.length_pos {condition : Option Condition} {tag : List Char} (h : OpensBranch condition tag) :
    0 < tag.length := by
  obtain ⟨inner, -, rfl⟩ := h.exists_braced
  exact Nat.succ_pos _

/-- A tag is read with whatever follows it. -/
theorem OpensBranch.readTag? {condition : Option Condition} {tag : List Char} (h : OpensBranch condition tag)
    (rest : List Char) : Conditional.readTag? (tag ++ rest) = some (⟨tag, condition⟩, rest) := by
  cases h with
  | elseIf test h => exact readTag?_elseIf test h rest
  | otherwise hs => exact readTag?_else hs rest

/-- A text off which a tag is read begins with one. -/
theorem exists_opensBranch_of_readTag? {text rest : List Char} {tag : BranchTag}
    (h : Conditional.readTag? text = some (tag, rest)) :
    ∃ condition written behind, OpensBranch condition written ∧ text = written ++ behind := by
  simp only [Conditional.readTag?, Option.bind_eq_bind, Option.bind_eq_some_iff] at h
  obtain ⟨inner, hopen, left, hkeyword, h⟩ := h
  obtain ⟨spelled, hs, rfl⟩ := afterKeyword?_eq_some_iff.mp hkeyword
  rw [after?_eq_some_iff.mp hopen]
  split at h
  case h_1 condition behind hcondition =>
    obtain ⟨more, hif, hread⟩ := Option.bind_eq_some_iff.mp hcondition
    obtain ⟨spelled', hs', rfl⟩ := afterKeyword?_eq_some_iff.mp hif
    obtain ⟨test, blanks, written, rfl, hb, hne, hw, rfl⟩ := exists_test_of_read? hread
    refine ⟨_, _, behind, .elseIf test (.tag (List.rel_append hs hs') hb hne hw), ?_⟩
    simp [braced]
  case h_2 =>
    obtain ⟨behind, hclose, -⟩ := Option.bind_eq_some_iff.mp h
    refine ⟨_, _, behind, .otherwise hs, ?_⟩
    simp [braced, after?_eq_some_iff.mp hclose]

/-- **A tag is read off exactly the texts that begin with one.** -/
theorem readTag?_eq_some_iff {text rest : List Char} {tag : BranchTag} :
    Conditional.readTag? text = some (tag, rest) ↔
      OpensBranch tag.condition tag.source ∧ text = tag.source ++ rest := by
  constructor
  · intro h
    obtain ⟨condition, written, behind, hopens, rfl⟩ := exists_opensBranch_of_readTag? h
    rw [hopens.readTag? behind] at h
    cases h
    exact ⟨hopens, rfl⟩
  · rintro ⟨hopens, rfl⟩
    exact hopens.readTag? rest

/-! ## Texts without tags -/

/-- A tag that opens a branch with this condition, or with none, stands in the text. -/
def HasTag (text : List Char) (condition : Option Condition) : Prop :=
  ∃ front tag back, OpensBranch condition tag ∧ text = front ++ (tag ++ back)

/-- What stands in a part of a text stands in the text. -/
theorem HasTag.append {text : List Char} {condition : Option Condition} (h : HasTag text condition)
    (before behind : List Char) : HasTag (before ++ (text ++ behind)) condition := by
  obtain ⟨front, tag, back, hopens, rfl⟩ := h
  exact ⟨before ++ front, tag, back ++ behind, hopens, by simp only [List.append_assoc]⟩

/-- A tag stands in a text if and only if it is read at one of its characters. -/
theorem hasTag_iff {text : List Char} {condition : Option Condition} :
    HasTag text condition ↔
      ∃ k < text.length, (Conditional.readTag? (text.drop k)).map (·.1.condition) = some condition := by
  constructor
  · rintro ⟨front, tag, back, hopens, rfl⟩
    have hpos := hopens.length_pos
    refine ⟨front.length, ?_, ?_⟩
    · rw [List.length_append, List.length_append]
      omega
    · rw [List.drop_left, hopens.readTag?]
      rfl
  · rintro ⟨k, -, hk⟩
    obtain ⟨⟨tag, back⟩, hread, rfl⟩ := Option.map_eq_some_iff.mp hk
    obtain ⟨hopens, hdrop⟩ := readTag?_eq_some_iff.mp hread
    exact ⟨text.take k, tag.source, back, hopens, by rw [← hdrop, List.take_append_drop]⟩

instance (text : List Char) (condition : Option Condition) : Decidable (HasTag text condition) :=
  decidable_of_iff _ hasTag_iff.symm

/-- A tag that begins in a text ends in it, if another tag or nothing follows the text. -/
theorem OpensBranch.exists_append {condition : Option Condition} {tag text rest left : List Char} {c : Char}
    (h : OpensBranch condition tag) (hrest : rest = [] ∨ ∃ more, rest = '{' :: '{' :: more)
    (he : c :: text ++ rest = tag ++ left) : ∃ back, c :: text = tag ++ back := by
  obtain ⟨inner, hinner, rfl⟩ := h.exists_braced
  have hbrace : '{' ∉ inner ++ ['}', '}'] := by simp [hinner]
  rcases List.append_eq_append_iff.mp he with ⟨_ | ⟨d, more⟩, htag, hmore⟩ | ⟨back, hback, -⟩
  · exact ⟨[], by rw [htag, List.append_nil, List.append_nil]⟩
  · exfalso
    rcases hrest with rfl | ⟨behind, rfl⟩
    · cases hmore
    · -- The brace behind the text would be the second of the tag, with one more behind it, or be inside the tag.
      obtain ⟨rfl, hbehind⟩ := List.cons.inj hmore
      obtain ⟨-, htail⟩ := List.cons.inj htag
      cases text with
      | nil =>
        obtain ⟨-, rfl⟩ := List.cons.inj htail
        cases inner with
        | nil => cases hbehind
        | cons d inner => exact hinner ((List.cons.inj hbehind).1 ▸ List.mem_cons_self)
      | cons d text =>
        obtain ⟨-, hin⟩ := List.cons.inj htail
        exact hbrace (hin ▸ List.mem_append_right _ List.mem_cons_self)
  · exact ⟨back, hback⟩

/-- A text with no tag in it is clear, if a tag or nothing follows it. -/
theorem clear_of_not_hasTag {text rest : List Char} (h : ∀ condition, ¬HasTag text condition)
    (hrest : rest = [] ∨ ∃ more, rest = '{' :: '{' :: more) : Clear Conditional.readTag? rest text := by
  induction text with
  | nil => trivial
  | cons c text ih =>
    refine ⟨Option.eq_none_iff_forall_ne_some.mpr fun ⟨tag, left⟩ hread => ?_, ih fun condition htext => ?_⟩
    · obtain ⟨hopens, he⟩ := readTag?_eq_some_iff.mp hread
      obtain ⟨back, hback⟩ := hopens.exists_append hrest he
      exact h _ ⟨[], _, back, hopens, hback⟩
    · have hmore := htext.append [c] []
      rw [List.append_nil] at hmore
      exact h condition hmore

/-- A text in which a tag stands has a first one. -/
theorem HasTag.exists_first {text : List Char} {condition : Option Condition} (h : HasTag text condition) :
    ∃ content next tag behind, (∀ condition, ¬HasTag content condition) ∧ OpensBranch next tag ∧
      text = content ++ (tag ++ behind) := by
  induction hlength : text.length using Nat.strong_induction_on generalizing text condition with
  | _ length ih =>
    obtain ⟨front, tag, back, hopens, rfl⟩ := h
    by_cases hfront : ∃ condition, HasTag front condition
    · -- The text in front of a tag is shorter, and has a first tag if it has any.
      obtain ⟨other, hother⟩ := hfront
      have hshorter : front.length < length := by
        have hpos := hopens.length_pos
        rw [← hlength, List.length_append, List.length_append]
        omega
      obtain ⟨content, next, tag', behind, hfree, hopens', rfl⟩ := ih _ hshorter hother rfl
      exact ⟨content, next, tag', behind ++ (tag ++ back), hfree, hopens', by simp only [List.append_assoc]⟩
    · exact ⟨front, condition, tag, back, not_exists.mp hfront, hopens, rfl⟩

end FrontPage.Tree
