import FrontPage.Text.Blank
import FrontPage.Text.Keyword
import FrontPage.Text.Word
import Mathlib.Data.List.Forall2

/-!
# Spellings and classes of characters

A word may be spelled in any letter case (`Spells`), and `afterKeyword?` takes exactly a spelling off the beginning of
a text (`afterKeyword?_eq_some_iff`). Word characters are no blanks (`isBlank_of_isWordChar`), so that a run of the
one class ends where the other begins: a run is taken up to a text that stops it (`Stops`).
-/

namespace FrontPage.Text

/-! ## Spellings -/

/-- A text spells a word given in small letters: each character stands for its letter. -/
def Spells (word spelled : List Char) : Prop := List.Forall₂ (fun letter c => standsFor letter c = true) word spelled

instance (word spelled : List Char) : Decidable (Spells word spelled) :=
  inferInstanceAs (Decidable (List.Forall₂ (fun letter c => standsFor letter c = true) word spelled))

/-- A keyword is read off the texts that are a spelling of it with something behind it. -/
theorem afterKeyword?_eq_some_iff {word text rest : List Char} :
    afterKeyword? word text = some rest ↔ ∃ spelled, Spells word spelled ∧ text = spelled ++ rest := by
  induction word generalizing text with
  | nil => simp [afterKeyword?, Spells]
  | cons w word ih =>
    cases text with
    | nil =>
      simp only [afterKeyword?, reduceCtorEq, false_iff]
      rintro ⟨spelled, hs, he⟩
      cases hs
      cases he
    | cons c text =>
      by_cases h : standsFor w c = true
      · rw [afterKeyword?, if_pos h, ih]
        constructor
        · rintro ⟨spelled, hs, rfl⟩
          exact ⟨c :: spelled, .cons h hs, rfl⟩
        · rintro ⟨_, hs, he⟩
          cases hs with
          | cons hc hs =>
            simp only [List.cons_append, List.cons.injEq] at he
            exact ⟨_, hs, he.2⟩
      · rw [afterKeyword?, if_neg h]
        simp only [reduceCtorEq, false_iff]
        rintro ⟨_, hs, he⟩
        cases hs with
        | cons hc hs =>
          simp only [List.cons_append, List.cons.injEq] at he
          exact h (he.1 ▸ hc)

/-- What follows a spelling of a keyword. -/
theorem Spells.afterKeyword? {word spelled : List Char} (h : Spells word spelled) (rest : List Char) :
    afterKeyword? word (spelled ++ rest) = some rest := afterKeyword?_eq_some_iff.mpr ⟨spelled, h, rfl⟩

/-- A keyword of two words is read as the one and then the other. -/
theorem afterKeyword?_append (word more text : List Char) :
    afterKeyword? (word ++ more) text = (afterKeyword? word text).bind (afterKeyword? more) := by
  induction word generalizing text with
  | nil => rfl
  | cons w word ih =>
    cases text with
    | nil => rfl
    | cons c text =>
      simp only [List.cons_append, afterKeyword?]
      split
      · exact ih text
      · rfl

/-- A character that no letter of a word stands for is in no spelling of it. -/
theorem Spells.not_mem {word spelled : List Char} {c : Char} (h : Spells word spelled)
    (hc : word.any (standsFor · c) = false) : c ∉ spelled := by
  induction h with
  | nil => exact List.not_mem_nil
  | @cons letter d word spelled hd _ ih =>
    obtain ⟨hletter, hword⟩ := Bool.or_eq_false_iff.mp hc
    intro hm
    rcases List.mem_cons.mp hm with rfl | hm
    · exact absurd (hletter.symm.trans hd) Bool.false_ne_true
    · exact ih hword hm

/-- A keyword that is read off a text with a foreign character in it ends before that. -/
theorem afterKeyword?_stop {word key rest left : List Char} {c : Char}
    (hc : word.any (standsFor · c) = false) (h : afterKeyword? word (key ++ c :: rest) = some left) :
    ∃ spelled more, Spells word spelled ∧ key = spelled ++ more ∧ left = more ++ c :: rest := by
  obtain ⟨spelled, hs, he⟩ := afterKeyword?_eq_some_iff.mp h
  rcases List.append_eq_append_iff.mp he with ⟨more, hk, hl⟩ | ⟨more, hk, hl⟩
  · cases more with
    | nil => exact ⟨spelled, [], hs, by simpa using hk.symm, by simpa using hl.symm⟩
    | cons d more =>
      simp only [List.cons_append, List.cons.injEq] at hl
      exact absurd (by rw [hk, ← hl.1]; simp) (hs.not_mem hc)
  · exact ⟨spelled, more, hs, hk, hl⟩

/-! ## Classes of characters -/

/-- The code points of blanks. -/
def blankCodes : List Nat :=
  [9, 10, 11, 12, 13, 28, 29, 30, 31, 32, 0x85, 0xA0, 0x1680, 0x2000, 0x2001, 0x2002, 0x2003, 0x2004, 0x2005, 0x2006,
   0x2007, 0x2008, 0x2009, 0x200A, 0x2028, 0x2029, 0x202F, 0x205F, 0x3000]

/-- A blank has one of the code points of blanks. -/
theorem mem_blankCodes {c : Char} (h : isBlank c = true) : c.toNat ∈ blankCodes := by
  simp only [isBlank, Bool.or_eq_true, Bool.and_eq_true, decide_eq_true_eq, beq_iff_eq] at h
  simp only [blankCodes, List.mem_cons, List.not_mem_nil, or_false]
  omega

/-- Word characters are no blanks. -/
theorem isBlank_of_isWordChar {c : Char} (h : isWordChar c = true) : isBlank c = false := by
  have hcodes : ∀ n ∈ blankCodes, isWordChar (Char.ofNat n) = false := by decide +kernel
  cases hb : isBlank c with
  | false => rfl
  | true =>
    have hw := hcodes _ (mem_blankCodes hb)
    rw [Char.ofNat_toNat, h] at hw
    cases hw

/-- Blanks are no word characters. -/
theorem isWordChar_of_isBlank {c : Char} (h : isBlank c = true) : isWordChar c = false := by
  cases hw : isWordChar c with
  | false => rfl
  | true => exact absurd (h.symm.trans (isBlank_of_isWordChar hw)) (by decide)

/-! ## Runs -/

/-- A text does not begin with a character of a class. -/
def Stops (p : Char → Bool) (text : List Char) : Prop := ∀ c ∈ text.head?, p c = false

section

variable {p : Char → Bool}

theorem stops_cons {c : Char} {text : List Char} (h : p c = false) : Stops p (c :: text) := by
  intro d hd
  cases hd
  exact h

/-- A text that begins with characters outside the class stops it if what follows them does. -/
theorem Stops.append {run rest : List Char} (hrun : ∀ c ∈ run, p c = false) (hrest : Stops p rest) :
    Stops p (run ++ rest) := by
  cases run with
  | nil => exact hrest
  | cons c run => exact stops_cons (hrun c List.mem_cons_self)

/-- A text with characters at its beginning, all of them outside the class, stops it. -/
theorem stops_append {run : List Char} (hne : run ≠ []) (hrun : ∀ c ∈ run, p c = false) (rest : List Char) :
    Stops p (run ++ rest) := by
  cases run with
  | nil => exact absurd rfl hne
  | cons c run => exact stops_cons (hrun c List.mem_cons_self)

/-- A run is taken up to what stops it. -/
theorem takeWhile_run {run rest : List Char} (hrun : ∀ c ∈ run, p c = true) (hrest : Stops p rest) :
    (run ++ rest).takeWhile p = run := by
  rw [List.takeWhile_append_of_pos hrun]
  cases rest with
  | nil => simp
  | cons c rest => simp [hrest c rfl]

/-- A run is dropped up to what stops it. -/
theorem dropWhile_run {run rest : List Char} (hrun : ∀ c ∈ run, p c = true) (hrest : Stops p rest) :
    (run ++ rest).dropWhile p = rest := by
  rw [List.dropWhile_append_of_pos hrun]
  cases rest with
  | nil => rfl
  | cons c rest => simp [hrest c rfl]

end

end FrontPage.Text
