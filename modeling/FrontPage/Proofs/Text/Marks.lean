import FrontPage.Text.Keyword
import FrontPage.Text.Scan

/-!
# Texts without marks

A text is clear for a reader, with something behind it, when the reader recognises no mark at any of its characters
(`Clear`). A scan lists a clear text character by character and goes on behind it (`scan_of_clear`). The marks of
templates begin with two opening braces (`Braced`): a text without an opening brace is clear for their readers
(`Braced.clear_of_notMem`), and so is a whole tag that is not recognised at its beginning (`Braced.clear_braced`).
-/

namespace FrontPage.Text

section

variable {α : Type} {read : Reader α} {rest : List Char}

/-- No mark begins inside a text that something follows. -/
def Clear (read : Reader α) (rest : List Char) : List Char → Prop
  | [] => True
  | c :: text => read (c :: (text ++ rest)) = none ∧ Clear read rest text

/-- Clear texts after one another. -/
theorem Clear.append {a b : List Char} (ha : Clear read (b ++ rest) a) (hb : Clear read rest b) :
    Clear read rest (a ++ b) := by
  induction a with
  | nil => exact hb
  | cons c a ih =>
    refine ⟨?_, ih ha.2⟩
    show read (c :: (a ++ b ++ rest)) = none
    rw [List.append_assoc]
    exact ha.1

/-- The scan of a clear text lists its characters. -/
theorem scan_of_clear {text : List Char} (h : Clear read rest text) :
    scan read (text ++ rest) = text.map .inl ++ scan read rest := by
  induction text with
  | nil => rfl
  | cons c text ih =>
    rw [List.cons_append, scan_cons_of_none h.1, ih h.2]
    rfl

/-- The scan of a mark lists it and goes on behind it. -/
theorem scan_of_mark {taken : List Char} {mark : α} (hne : taken ≠ [])
    (h : read (taken ++ rest) = some (mark, rest)) : scan read (taken ++ rest) = .inr mark :: scan read rest := by
  cases taken with
  | nil => exact absurd rfl hne
  | cons c taken => exact scan_cons_of_some h

end

/-- What stands between double braces. -/
def braced (inner : List Char) : List Char := '{' :: '{' :: (inner ++ ['}', '}'])

/-- A tag with something behind it, its braces apart. -/
theorem braced_append (inner rest : List Char) : braced inner ++ rest = '{' :: '{' :: (inner ++ '}' :: '}' :: rest) := by
  simp [braced]

/-- What follows the opening braces of a tag. -/
theorem after?_braced (inner rest : List Char) :
    after? ['{', '{'] (braced inner ++ rest) = some (inner ++ '}' :: '}' :: rest) := by
  rw [braced_append]
  simp [after?]

/-- The marks of a reader begin with two opening braces. -/
def Braced {α : Type} (read : Reader α) : Prop := ∀ text, after? ['{', '{'] text = none → read text = none

namespace Braced

variable {α : Type} {read : Reader α}

/-- No mark begins at another character than an opening brace. -/
theorem eq_none_of_ne (hr : Braced read) {c : Char} (h : c ≠ '{') (text : List Char) : read (c :: text) = none :=
  hr _ (by simp [after?, Ne.symm h])

/-- No mark begins at an opening brace that stands alone. -/
theorem eq_none_of_alone (hr : Braced read) {text : List Char} (h : ∀ rest, text ≠ '{' :: rest) :
    read ('{' :: text) = none := by
  refine hr _ ?_
  cases text with
  | nil => rfl
  | cons c text =>
    have hc : '{' ≠ c := fun e => h text (e ▸ rfl)
    simp [after?, hc]

/-- A text without an opening brace is clear. -/
theorem clear_of_notMem (hr : Braced read) {text : List Char} (h : '{' ∉ text) (rest : List Char) :
    Clear read rest text := by
  induction text with
  | nil => trivial
  | cons c text ih =>
    simp only [List.mem_cons, not_or] at h
    obtain ⟨hc, ht⟩ := h
    exact ⟨hr.eq_none_of_ne (Ne.symm hc) _, ih ht⟩

/-- A tag that is not recognised at its beginning is clear. -/
theorem clear_braced (hr : Braced read) {inner rest : List Char} (h : '{' ∉ inner)
    (hn : read (braced inner ++ rest) = none) : Clear read rest (braced inner) := by
  have hinner : '{' ∉ inner ++ ['}', '}'] := by simp [h]
  refine ⟨hn, ?_, hr.clear_of_notMem hinner rest⟩
  refine hr.eq_none_of_alone fun more he => ?_
  cases inner with
  | nil => simp at he
  | cons c inner =>
    simp only [List.cons_append, List.cons.injEq] at he
    exact h (he.1 ▸ List.mem_cons_self)

end Braced

end FrontPage.Text
