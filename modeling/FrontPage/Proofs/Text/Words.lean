import FrontPage.Proofs.Text.Trimming

/-!
# Words and pieces

A text is cut into pieces at a separator, which is the cut of the library (`pieces_eq_splitOn`), and into words at
blanks. The words are told by how they stand in the text (`HasWords`): blanks, a word up to the next blank or the end,
and so on, until only blanks are left. Each text has words (`exists_hasWords`), and no others than those that it is cut
into (`HasWords.words_eq`).
-/

namespace FrontPage.Text

/-! ## Pieces -/

/-- The pieces of a text are those that the library cuts it into. -/
theorem pieces_eq_splitOn (separator : Char) (text : List Char) : pieces separator text = text.splitOn separator := by
  induction text with
  | nil => rw [pieces, List.splitOn_nil]
  | cons c text ih =>
    rw [pieces, List.splitOn_cons_eq_if_modifyHead]
    by_cases hc : c = separator
    · rw [if_pos hc, if_pos (beq_iff_eq.mpr hc), ih]
    · rw [if_neg hc, if_neg (mt beq_iff_eq.mp hc), ← ih]
      obtain ⟨piece, others, hpieces⟩ := List.exists_cons_of_ne_nil (pieces_ne_nil separator text)
      rw [hpieces, List.modifyHead_cons]

/-- No piece of a text has the separator. -/
theorem notMem_of_mem_pieces {separator : Char} {text piece : List Char} (h : piece ∈ pieces separator text) :
    separator ∉ piece := by
  induction text generalizing piece with
  | nil =>
    rw [pieces, List.mem_singleton] at h
    rw [h]
    exact List.not_mem_nil
  | cons c text ih =>
    rw [pieces] at h
    split at h
    · rcases List.mem_cons.mp h with rfl | h
      · exact List.not_mem_nil
      · exact ih h
    · rename_i hc
      obtain ⟨first, others, hpieces⟩ := List.exists_cons_of_ne_nil (pieces_ne_nil separator text)
      rw [hpieces] at h ih
      rcases List.mem_cons.mp h with rfl | h
      · rintro (_ | ⟨_, hm⟩)
        · exact hc rfl
        · exact ih List.mem_cons_self hm
      · exact ih (List.mem_cons_of_mem _ h)

/-! ## Words -/

/-- How the words of a text stand in it. -/
inductive HasWords : List Char → List (List Char) → Prop
  | blanks {text : List Char} : (∀ c ∈ text, isBlank c = true) → HasWords text []
  | word {lead word rest : List Char} {others : List (List Char)} : (∀ c ∈ lead, isBlank c = true) → word ≠ [] →
      (∀ c ∈ word, isBlank c = false) → (∀ c ∈ rest.head?, isBlank c = true) → HasWords rest others →
      HasWords (lead ++ (word ++ rest)) (word :: others)

/-- A blank is in no word. -/
theorem words_cons_of_isBlank {c : Char} (hc : isBlank c = true) (rest : List Char) :
    words (c :: rest) = words rest := by
  rw [words.eq_def]
  exact if_pos hc

/-- Blanks in front of a text are in none of its words. -/
theorem words_append_of_blanks {lead : List Char} (hlead : ∀ c ∈ lead, isBlank c = true) (rest : List Char) :
    words (lead ++ rest) = words rest := by
  induction lead with
  | nil => rfl
  | cons c lead ih =>
    obtain ⟨hc, hlead⟩ := List.forall_mem_cons.mp hlead
    rw [List.cons_append, words_cons_of_isBlank hc, ih hlead]

/-- A word goes up to the next blank or to the end of the text. -/
theorem words_append_of_word {word rest : List Char} (hne : word ≠ []) (hword : ∀ c ∈ word, isBlank c = false)
    (hrest : ∀ c ∈ rest.head?, isBlank c = true) : words (word ++ rest) = word :: words rest := by
  induction word with
  | nil => exact absurd rfl hne
  | cons c word ih =>
    obtain ⟨hc, hword⟩ := List.forall_mem_cons.mp hword
    cases word with
    | nil =>
      rw [List.singleton_append, words.eq_def]
      cases rest with
      | nil =>
        simp only [hc, Bool.false_eq_true, if_false]
        rfl
      | cons d rest => simp only [hc, hrest d rfl, Bool.false_eq_true, if_false, if_true]
    | cons d word =>
      have hmore := ih (List.cons_ne_nil _ _) hword
      rw [List.cons_append] at hmore
      rw [List.cons_append, List.cons_append, words.eq_def]
      simp only [hc, hword d List.mem_cons_self, hmore, Bool.false_eq_true, if_false]

/-- The words of a text are the ones that stand in it. -/
theorem HasWords.words_eq {text : List Char} {ws : List (List Char)} (h : HasWords text ws) : words text = ws := by
  induction h with
  | blanks hblanks =>
    have hall := words_append_of_blanks hblanks []
    rwa [List.append_nil] at hall
  | word hlead hne hword hrest _ ih => rw [words_append_of_blanks hlead, words_append_of_word hne hword hrest, ih]

/-- Some words stand in every text. -/
theorem exists_hasWords (text : List Char) : ∃ ws, HasWords text ws := by
  induction text with
  | nil => exact ⟨[], .blanks nofun⟩
  | cons c text ih =>
    obtain ⟨ws, hws⟩ := ih
    cases hc : isBlank c with
    | true =>
      cases hws with
      | blanks hblanks => exact ⟨[], .blanks (List.forall_mem_cons.mpr ⟨hc, hblanks⟩)⟩
      | @word lead word rest others hlead hne hword hrest hothers =>
        exact ⟨word :: others, .word (List.forall_mem_cons.mpr ⟨hc, hlead⟩) hne hword hrest hothers⟩
    | false =>
      have hone : ∀ d ∈ [c], isBlank d = false := List.forall_mem_singleton.mpr hc
      cases hws with
      | blanks hblanks =>
        have hrest : ∀ d ∈ text.head?, isBlank d = true := fun d hd => hblanks d (List.mem_of_mem_head? hd)
        exact ⟨[[c]], .word (List.forall_mem_nil _) (List.cons_ne_nil _ _) hone hrest (.blanks hblanks)⟩
      | @word lead word rest others hlead hne hword hrest hothers =>
        cases lead with
        | nil =>
          -- The character is the first one of the first word.
          exact ⟨(c :: word) :: others, .word (List.forall_mem_nil _) (List.cons_ne_nil _ _)
            (List.forall_mem_cons.mpr ⟨hc, hword⟩) hrest hothers⟩
        | cons d lead =>
          have hd : ∀ e ∈ (d :: lead ++ (word ++ rest)).head?, isBlank e = true := by
            rintro e ⟨⟩
            exact hlead d List.mem_cons_self
          exact ⟨[c] :: word :: others, .word (List.forall_mem_nil _) (List.cons_ne_nil _ _) hone hd
            (.word hlead hne hword hrest hothers)⟩

end FrontPage.Text
