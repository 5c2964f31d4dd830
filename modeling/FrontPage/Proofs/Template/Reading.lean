import FrontPage.Proofs.Template.Syntax
import FrontPage.Template.Conditional
import FrontPage.Template.Placeholder

/-!
# Reading written tags

The readers of templates recognise the tags of a written block and nothing else in it. A written condition is read
back with whatever follows it (`read?_condition`), and so are If, ElseIf, Else and EndIf tags and placeholders.
A placeholder is none of the other tags (`read?_key`, `readEnd?_key`, `readTag?_key`), because its key is a word that is
neither Else nor EndIf and no blank stands in it. What stands between an If tag and its EndIf tag is clear of further
EndIf tags (`clear_written`, `clear_branches`), so that a conditional ends where it was written to end.
-/

namespace FrontPage.Tree

open FrontPage.Text

/-! ## Conditions -/

theorem isBlank_of_isOperatorChar {c : Char} (h : Condition.isOperatorChar c = true) : isBlank c = false := by
  simp only [Condition.isOperatorChar, Bool.or_eq_true, beq_iff_eq] at h
  rcases h with ((rfl | rfl) | rfl) | rfl <;> decide

theorem isWordChar_of_isOperatorChar {c : Char} (h : Condition.isOperatorChar c = true) : isWordChar c = false := by
  simp only [Condition.isOperatorChar, Bool.or_eq_true, beq_iff_eq] at h
  rcases h with ((rfl | rfl) | rfl) | rfl <;> decide

theorem isBlank_of_isValueChar {c : Char} (h : Condition.isValueChar c = true) : isBlank c = false := by
  simp only [Condition.isValueChar, Bool.or_eq_true, beq_iff_eq] at h
  rcases h with (h | rfl) | rfl
  · exact isBlank_of_isWordChar h
  · decide
  · decide

theorem isOperatorChar_of_isValueChar {c : Char} (h : Condition.isValueChar c = true) :
    Condition.isOperatorChar c = false := by
  cases ho : Condition.isOperatorChar c with
  | false => rfl
  | true =>
    simp only [Condition.isOperatorChar, Bool.or_eq_true, beq_iff_eq] at ho
    rcases ho with ((rfl | rfl) | rfl) | rfl <;> exact absurd h (by decide)

/-- Blanks are of no other class that a condition is made of. -/
theorem of_isBlank {c : Char} (h : isBlank c = true) :
    isWordChar c = false ∧ Condition.isOperatorChar c = false := by
  refine ⟨isWordChar_of_isBlank h, ?_⟩
  cases ho : Condition.isOperatorChar c with
  | false => rfl
  | true => rw [isBlank_of_isOperatorChar ho] at h; cases h

/-- The closing braces of a tag stand alone behind what they close. -/
theorem after?_closing_eq_none {run rest : List Char} (hne : run ≠ []) (h : '}' ∉ run) :
    after? ['}', '}'] (run ++ rest) = none := by
  cases run with
  | nil => exact absurd rfl hne
  | cons c run =>
    have hc : '}' ≠ c := fun e => h (e ▸ List.mem_cons_self)
    simp [after?, hc]

theorem after?_closing (rest : List Char) : after? ['}', '}'] ('}' :: '}' :: rest) = some rest := by
  simp [after?]

/-- An operator and a value are read with any blanks before them. -/
theorem readComparison?_of_writes (test : Test) {operator value : String}
    (hc : test.condition.comparison = some (operator, value)) {before behind : List Char} (hb : Blanks before)
    (hb' : Blanks behind) (rest : List Char) :
    Condition.readComparison? (before ++ (operator.toList ++ (behind ++ (value.toList ++ '}' :: '}' :: rest)))) =
      some ((operator, value), rest) := by
  have hone := test.operator_ne_nil _ hc
  have holen : operator.toList.length ≤ 2 := test.operator_length_le _ hc
  have hop := test.isOperatorChar_of_mem _ hc
  have hvne := test.value_ne_nil _ hc
  have hval := test.isValueChar_of_mem _ hc
  have hclose : Stops Condition.isValueChar ('}' :: '}' :: rest) := stops_cons (by decide)
  have hvalue : Stops isBlank (value.toList ++ '}' :: '}' :: rest) :=
    stops_append hvne (fun c h => isBlank_of_isValueChar (hval c h)) _
  have hoperator : Stops isBlank (operator.toList ++ (behind ++ (value.toList ++ '}' :: '}' :: rest))) :=
    stops_append hone (fun c h => isBlank_of_isOperatorChar (hop c h)) _
  have hbehind : Stops Condition.isOperatorChar (behind ++ (value.toList ++ '}' :: '}' :: rest)) :=
    .append (fun c h => (of_isBlank (hb' c h)).2)
      (stops_append hvne (fun c h => isOperatorChar_of_isValueChar (hval c h)) _)
  have h₁ : operator.toList.isEmpty = false := by simpa using hone
  have h₂ : ¬2 < operator.toList.length := by omega
  have h₃ : value.toList.isEmpty = false := by simpa using hvne
  simp only [Condition.readComparison?, dropWhile_run hb hoperator, takeWhile_run hop hbehind,
    dropWhile_run hop hbehind, dropWhile_run hb' hvalue, takeWhile_run hval hclose, dropWhile_run hval hclose,
    after?_closing, h₁, h₂, h₃]
  simp

/-- Behind blanks, the field of a condition is read up to what stops it. -/
theorem read?_field (test : Test) {blanks tail : List Char} (hb : Blanks blanks) (hne : blanks ≠ [])
    (ht : Stops isWordChar tail) :
    Condition.read? (blanks ++ (test.condition.field.toList ++ tail)) =
      match after? ['}', '}'] tail with
      | some rest => some (⟨test.condition.field, none⟩, rest)
      | none => (Condition.readComparison? tail).map fun p => (⟨test.condition.field, some p.1⟩, p.2) := by
  have hword := test.isWordChar_of_mem
  have hfield : Stops isBlank (test.condition.field.toList ++ tail) :=
    stops_append test.field_ne_nil (fun c h => isBlank_of_isWordChar (hword c h)) _
  have hempty : test.condition.field.toList.isEmpty = false := by simpa using test.field_ne_nil
  have hhead : ((blanks ++ (test.condition.field.toList ++ tail)).head?.map isBlank).getD false = true := by
    cases blanks with
    | nil => exact absurd rfl hne
    | cons c blanks => exact hb c List.mem_cons_self
  cases hclose : after? ['}', '}'] tail with
  | none =>
    simp only [Condition.read?, dropWhile_run hb hfield, takeWhile_run hword ht, dropWhile_run hword ht, hhead, hempty,
      hclose, String.ofList_toList, Bool.not_true, Bool.or_false, Bool.false_eq_true, if_false]
  | some rest =>
    simp only [Condition.read?, dropWhile_run hb hfield, takeWhile_run hword ht, dropWhile_run hword ht, hhead, hempty,
      hclose, String.ofList_toList, Bool.not_true, Bool.or_false, Bool.false_eq_true, if_false]

/-- A written condition is read with at least one blank before it and the closing braces behind it. -/
theorem read?_condition (test : Test) {blanks text : List Char} (hb : Blanks blanks) (hne : blanks ≠ [])
    (h : WritesCondition test.condition text) (rest : List Char) :
    Condition.read? (blanks ++ (text ++ '}' :: '}' :: rest)) = some (test.condition, rest) := by
  generalize hc : test.condition = condition at h
  cases h with
  | bare field =>
    have hclose : Stops isWordChar ('}' :: '}' :: rest) := stops_cons (by decide)
    have hr := read?_field test hb hne hclose
    rw [hc] at hr
    rw [hr, after?_closing]
  | @compared field operator value before behind hbefore hbehind =>
    have hcmp : test.condition.comparison = some (operator, value) := by rw [hc]
    have hop := test.isOperatorChar_of_mem _ hcmp
    have hone : operator.toList ≠ [] := test.operator_ne_nil _ hcmp
    have htail : Stops isWordChar (before ++ (operator.toList ++ (behind ++ (value.toList ++ '}' :: '}' :: rest)))) :=
      .append (fun c h => (of_isBlank (hbefore c h)).1)
        (stops_append hone (fun c h => isWordChar_of_isOperatorChar (hop c h)) _)
    have hopen : after? ['}', '}'] (before ++ (operator.toList ++ (behind ++ (value.toList ++ '}' :: '}' :: rest)))) =
        none := by
      rw [← List.append_assoc]
      refine after?_closing_eq_none (by simp [hone]) fun hm => ?_
      rcases List.mem_append.mp hm with hm | hm
      · exact absurd (hbefore _ hm) (by decide)
      · exact absurd (hop _ hm) (by decide)
    have hr := read?_field test hb hne htail
    rw [hopen, readComparison?_of_writes test hcmp hbefore hbehind] at hr
    rw [hc] at hr
    simpa using hr

/-! ## Tags -/

/-- An EndIf tag is read off a text that begins with one. -/
theorem readEnd?_end {spelled : List Char} (h : Spells ['e', 'n', 'd', 'i', 'f'] spelled) (rest : List Char) :
    Conditional.readEnd? (braced spelled ++ rest) = some ((), rest) := by
  simp [Conditional.readEnd?, after?_braced, h.afterKeyword?, after?_closing]

/-- An Else tag is read off a text that begins with one. -/
theorem readTag?_else {spelled : List Char} (h : Spells ['e', 'l', 's', 'e'] spelled) (rest : List Char) :
    Conditional.readTag? (braced spelled ++ rest) = some (⟨braced spelled, none⟩, rest) := by
  have hif : afterKeyword? ['i', 'f'] ('}' :: '}' :: rest) = none := rfl
  simp [Conditional.readTag?, after?_braced, h.afterKeyword?, hif, after?_closing]

/-- An ElseIf tag is read off a text that begins with one. -/
theorem readTag?_elseIf (test : Test) {tag : List Char}
    (h : WritesTag ['e', 'l', 's', 'e', 'i', 'f'] test.condition tag) (rest : List Char) :
    Conditional.readTag? (tag ++ rest) = some (⟨tag, some test.condition⟩, rest) := by
  obtain @⟨spelled, blanks, text, hs, hb, hne, hw⟩ := h
  obtain ⟨after, h₁, h₂⟩ := Option.bind_eq_some_iff.mp
    ((afterKeyword?_append ['e', 'l', 's', 'e'] ['i', 'f'] _).symm.trans
      (hs.afterKeyword? (blanks ++ (text ++ '}' :: '}' :: rest))))
  have hopen : after? ['{', '{'] (braced (spelled ++ (blanks ++ text)) ++ rest) =
      some (spelled ++ (blanks ++ (text ++ '}' :: '}' :: rest))) := by
    rw [after?_braced]
    simp
  simp only [Conditional.readTag?, hopen, Option.bind_eq_bind, Option.bind_some, h₁, h₂,
    read?_condition test hb hne hw rest]
  simp

/-- A text that is clear of EndIf tags is gone over. -/
theorem toEnd?_of_clear {text rest : List Char} (h : Clear Conditional.readEnd? rest text) :
    Conditional.toEnd? (text ++ rest) = (Conditional.toEnd? rest).map fun parts => (text ++ parts.1, parts.2) := by
  induction text with
  | nil => simp
  | cons c text ih =>
    obtain ⟨hc, ht⟩ := h
    rw [List.cons_append, Conditional.toEnd?, hc, ih ht]
    simp [Function.comp_def]

/-- An EndIf tag ends the text in front of it. -/
theorem toEnd?_end {spelled : List Char} (h : Spells ['e', 'n', 'd', 'i', 'f'] spelled) (rest : List Char) :
    Conditional.toEnd? (braced spelled ++ rest) = some ([], rest) := by
  have hr := readEnd?_end h rest
  rw [braced_append] at hr ⊢
  rw [Conditional.toEnd?, hr]

/-- A conditional is read off a text with its If tag, a body that is clear of EndIf tags, and an EndIf tag. -/
theorem read?_conditional (test : Test) {tag body spelled : List Char} (h : WritesTag ['i', 'f'] test.condition tag)
    (hs : Spells ['e', 'n', 'd', 'i', 'f'] spelled) (rest : List Char)
    (hbody : Clear Conditional.readEnd? (braced spelled ++ rest) body) :
    Conditional.read? (tag ++ (body ++ braced spelled) ++ rest) = some (⟨test.condition, body⟩, rest) := by
  obtain @⟨keyword, blanks, text, hk, hb, hne, hw⟩ := h
  have hend : Conditional.toEnd? (body ++ (braced spelled ++ rest)) = some (body, rest) := by
    rw [toEnd?_of_clear hbody, toEnd?_end hs]
    simp
  have hopen : after? ['{', '{'] (braced (keyword ++ (blanks ++ text)) ++ (body ++ braced spelled) ++ rest) =
      some (keyword ++ (blanks ++ (text ++ '}' :: '}' :: (body ++ (braced spelled ++ rest))))) := by
    rw [List.append_assoc, after?_braced]
    simp
  simp only [Conditional.read?, hopen, Option.bind_eq_bind, Option.bind_some, hk.afterKeyword?,
    read?_condition test hb hne hw, hend]
  rfl

/-- A placeholder is read off a text that begins with one. -/
theorem readPlaceholder?_key (key : Key) (rest : List Char) :
    readPlaceholder? (braced key.name.toList ++ rest) = some (key.name, rest) := by
  have hclose : Stops isWordChar ('}' :: '}' :: rest) := stops_cons (by decide)
  have hempty : key.name.toList.isEmpty = false := by simpa using key.ne_nil
  simp only [readPlaceholder?, after?_braced, Option.bind_eq_bind, Option.bind_some,
    takeWhile_run key.isWordChar_of_mem hclose, dropWhile_run key.isWordChar_of_mem hclose, after?_closing, hempty,
    Bool.false_eq_true, if_false, String.ofList_toList]
  rfl

/-! ## What is clear -/

theorem braced_readEnd? : Braced Conditional.readEnd? := fun _ h => by simp [Conditional.readEnd?, h]

theorem braced_readTag? : Braced Conditional.readTag? := fun _ h => by simp [Conditional.readTag?, h]

theorem braced_read? : Braced Conditional.read? := fun _ h => by simp [Conditional.read?, h]

theorem braced_readPlaceholder? : Braced readPlaceholder? := fun _ h => by simp [readPlaceholder?, h]

/-- A key has no brace in it. -/
theorem Key.brace_notMem (key : Key) : '{' ∉ key.name.toList ∧ '}' ∉ key.name.toList :=
  ⟨fun h => absurd (key.isWordChar_of_mem _ h) (by decide), fun h => absurd (key.isWordChar_of_mem _ h) (by decide)⟩

/-- What is left of a key behind a keyword at its beginning holds no condition, because there is no blank. -/
theorem read?_key_eq_none (key : Key) {spelled more : List Char} (h : key.name.toList = spelled ++ more)
    (rest : List Char) : Condition.read? (more ++ '}' :: '}' :: rest) = none := by
  have hhead : ((more ++ '}' :: '}' :: rest).head?.map isBlank).getD false = false := by
    cases more with
    | nil => rfl
    | cons c more => exact isBlank_of_isWordChar (key.isWordChar_of_mem c (by simp [h]))
  simp only [Condition.read?, hhead, Bool.not_false, Bool.true_or, if_true]

/-- What is left of a key behind a keyword at its beginning does not close the tag, unless nothing is left. -/
theorem after?_key_eq_none (key : Key) {spelled more : List Char} (h : key.name.toList = spelled ++ more)
    (hne : more ≠ []) (rest : List Char) : after? ['}', '}'] (more ++ '}' :: '}' :: rest) = none :=
  after?_closing_eq_none hne fun hm => key.brace_notMem.2 (by simp [h, hm])

/-- A placeholder begins no conditional. -/
theorem read?_key (key : Key) (rest : List Char) : Conditional.read? (braced key.name.toList ++ rest) = none := by
  simp only [Conditional.read?, after?_braced, Option.bind_eq_bind, Option.bind_some]
  refine Option.bind_eq_none_iff.mpr fun left hl => ?_
  obtain ⟨spelled, more, -, hk, rfl⟩ := afterKeyword?_stop (by decide) hl
  rw [read?_key_eq_none key hk]
  rfl

/-- A placeholder is no EndIf tag. -/
theorem readEnd?_key (key : Key) (rest : List Char) :
    Conditional.readEnd? (braced key.name.toList ++ rest) = none := by
  simp only [Conditional.readEnd?, after?_braced, Option.bind_eq_bind, Option.bind_some]
  refine Option.bind_eq_none_iff.mpr fun left hl => ?_
  obtain ⟨spelled, more, hs, hk, rfl⟩ := afterKeyword?_stop (by decide) hl
  rw [after?_key_eq_none key hk fun he => key.not_endIf (by rw [hk, he, List.append_nil]; exact hs)]
  rfl

/-- A placeholder is no tag of a further branch. -/
theorem readTag?_key (key : Key) (rest : List Char) :
    Conditional.readTag? (braced key.name.toList ++ rest) = none := by
  simp only [Conditional.readTag?, after?_braced, Option.bind_eq_bind, Option.bind_some]
  refine Option.bind_eq_none_iff.mpr fun left hl => ?_
  obtain ⟨spelled, more, hs, hk, rfl⟩ := afterKeyword?_stop (by decide) hl
  -- The key may go on with "If", but then there is still no condition behind it.
  have hif : (afterKeyword? ['i', 'f'] (more ++ '}' :: '}' :: rest)).bind Condition.read? = none := by
    refine Option.bind_eq_none_iff.mpr fun left hl => ?_
    obtain ⟨spelled', more', -, hk', rfl⟩ := afterKeyword?_stop (by decide) hl
    have hkey : key.name.toList = (spelled ++ spelled') ++ more' := by rw [hk, hk', List.append_assoc]
    exact read?_key_eq_none key hkey rest
  rw [hif, after?_key_eq_none key hk fun he => key.not_else (by rw [hk, he, List.append_nil]; exact hs)]
  rfl

/-- A tag whose keyword begins like Else is no EndIf tag. -/
theorem readEnd?_else {word spelled : List Char} (h : Spells ('e' :: 'l' :: word) spelled) (more rest : List Char) :
    Conditional.readEnd? (braced (spelled ++ more) ++ rest) = none := by
  cases h with
  | @cons _ c _ _ _ h =>
    cases h with
    | @cons _ d _ spelled hd _ =>
      -- The second letter decides: none that stands for "l" stands for "n" too.
      have hn : standsFor 'n' d = false := by
        simp only [standsFor, Bool.or_eq_true, Bool.and_eq_true, beq_iff_eq] at hd
        rcases hd with (hd | ⟨hd, -⟩) | ⟨hd, -⟩
        · simp [standsFor, hd]
        · cases hd
        · cases hd
      simp [Conditional.readEnd?, after?_braced, afterKeyword?, hn]

/-- A written condition has no opening brace in it. -/
theorem brace_notMem_condition (test : Test) {text : List Char} (h : WritesCondition test.condition text) :
    '{' ∉ text := by
  have hblank {blanks : List Char} (hb : Blanks blanks) : '{' ∉ blanks := fun hm => absurd (hb _ hm) (by decide)
  have hfield : '{' ∉ test.condition.field.toList := fun hm => absurd (test.isWordChar_of_mem _ hm) (by decide)
  generalize hc : test.condition = condition at h
  rw [hc] at hfield
  cases h with
  | bare field => exact hfield
  | @compared field operator value before behind hbefore hbehind =>
    have hcmp : test.condition.comparison = some (operator, value) := by rw [hc]
    have hop : '{' ∉ operator.toList := fun hm => absurd (test.isOperatorChar_of_mem _ hcmp _ hm) (by decide)
    have hval : '{' ∉ value.toList := fun hm => absurd (test.isValueChar_of_mem _ hcmp _ hm) (by decide)
    simp only [List.mem_append, not_or]
    exact ⟨hfield, hblank hbefore, hop, hblank hbehind, hval⟩

/-- An ElseIf tag is clear of EndIf tags. -/
theorem clear_elseIf (test : Test) {tag : List Char} (h : WritesTag ['e', 'l', 's', 'e', 'i', 'f'] test.condition tag)
    (rest : List Char) : Clear Conditional.readEnd? rest tag := by
  obtain @⟨spelled, blanks, text, hs, hb, -, hw⟩ := h
  refine braced_readEnd?.clear_braced ?_ (readEnd?_else hs _ _)
  simp only [List.mem_append, not_or]
  exact ⟨hs.not_mem (by decide), fun hm => absurd (hb _ hm) (by decide), brace_notMem_condition test hw⟩

/-- An Else tag is clear of EndIf tags. -/
theorem clear_else {spelled : List Char} (h : Spells ['e', 'l', 's', 'e'] spelled) (rest : List Char) :
    Clear Conditional.readEnd? rest (braced spelled) := by
  refine braced_readEnd?.clear_braced (h.not_mem (by decide)) ?_
  simpa using readEnd?_else h [] rest

section

variable {α : Type} {read : Reader α}

/-- Pieces are clear for a reader of tags that recognises no placeholder. -/
theorem clear_written (hr : Braced read) (hkey : ∀ (key : Key) rest, read (braced key.name.toList ++ rest) = none)
    (pieces : List Piece) (rest : List Char) : Clear read rest (written pieces) := by
  induction pieces with
  | nil => trivial
  | cons piece pieces ih =>
    refine Clear.append ?_ ih
    cases piece with
    | text plain => exact hr.clear_of_notMem plain.no_brace _
    | placeholder key => exact hr.clear_braced key.brace_notMem.1 (hkey key _)

end

/-- The further branches of a conditional are clear of EndIf tags. -/
theorem clear_branches {more : List Case} {otherwise : Option (List Piece)} {text : List Char}
    (h : WritesBranches more otherwise text) (rest : List Char) : Clear Conditional.readEnd? rest text := by
  induction h with
  | none => trivial
  | otherwise contents hs => exact (clear_else hs _).append (clear_written braced_readEnd? readEnd?_key contents rest)
  | @case c more otherwise tag text ht _ ih =>
    exact (clear_elseIf c.test ht _).append ((clear_written braced_readEnd? readEnd?_key c.contents _).append ih)

end FrontPage.Tree
