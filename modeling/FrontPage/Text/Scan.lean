/-!
# Scanning a text for marks

A reader recognises a mark at the beginning of a text and gives what it recognised with the text behind it. `scan`
walks a text from left to right and lists its characters, with every mark in place of the characters it takes; marks
do not overlap and the leftmost wins. `cut?` splits a text at the first occurrence of a word, and `replaceAll` puts
another text in the place of every occurrence.
-/

namespace FrontPage.Text

/-- Recognises a mark at the beginning of a text and gives the text behind it. -/
abbrev Reader (α : Type) := List Char → Option (α × List Char)

/-- The scan of a text whose first `skip` characters belong to a mark already listed. -/
def scanFrom {α : Type} (read : Reader α) : (skip : Nat) → List Char → List (Char ⊕ α)
  | _, [] => []
  | skip + 1, _ :: text => scanFrom read skip text
  | 0, c :: text =>
    match read (c :: text) with
    | some (mark, rest) => .inr mark :: scanFrom read (text.length - rest.length) text
    | none => .inl c :: scanFrom read 0 text

/-- The characters and marks of a text, from left to right. -/
def scan {α : Type} (read : Reader α) (text : List Char) : List (Char ⊕ α) := scanFrom read 0 text

section
variable {α : Type} {read : Reader α}

@[simp] theorem scan_nil : scan read [] = [] := by simp [scan, scanFrom]

/-- Where no mark begins, the character stands for itself. -/
theorem scan_cons_of_none {c : Char} {text : List Char} (h : read (c :: text) = none) :
    scan read (c :: text) = .inl c :: scan read text := by
  simp [scan, scanFrom, h]

/-- Skipping the characters of a text leads to what follows it. -/
theorem scanFrom_length (taken rest : List Char) : scanFrom read taken.length (taken ++ rest) = scan read rest := by
  induction taken with
  | nil => simp [scan]
  | cons c taken ih => simp [scanFrom, ih]

/-- Where a mark begins, the scan goes on behind it. -/
theorem scan_cons_of_some {c : Char} {taken rest : List Char} {mark : α}
    (h : read (c :: (taken ++ rest)) = some (mark, rest)) :
    scan read (c :: (taken ++ rest)) = .inr mark :: scan read rest := by
  rw [scan, scanFrom, h]
  simp only [List.length_append, Nat.add_sub_cancel]
  rw [scanFrom_length]

end

/-- The text before the first occurrence of a word and the text behind it. -/
def cut? (word : List Char) : List Char → Option (List Char × List Char)
  | [] => if word.isEmpty then some ([], []) else none
  | c :: text =>
    if word.isPrefixOf (c :: text) then some ([], (c :: text).drop word.length)
    else (cut? word text).map fun parts => (c :: parts.1, parts.2)

/-- Cutting at a word loses nothing else. -/
theorem eq_of_cut? {word text before behind : List Char} (h : cut? word text = some (before, behind)) :
    text = before ++ word ++ behind := by
  induction text generalizing before with
  | nil =>
    simp only [cut?] at h
    split at h
    · simp_all
    · cases h
  | cons c text ih =>
    simp only [cut?] at h
    split at h
    · rename_i hp
      obtain ⟨rest, hr⟩ := List.isPrefixOf_iff_prefix.mp hp
      simp only [Option.some.injEq, Prod.mk.injEq] at h
      obtain ⟨rfl, rfl⟩ := h
      rw [← hr]
      simp
    · obtain ⟨parts, hp, heq⟩ := Option.map_eq_some_iff.mp h
      simp only [Prod.mk.injEq] at heq
      obtain ⟨rfl, rfl⟩ := heq
      simp [ih hp]

/-- Recognises a word and stands for its replacement. -/
def wordReader (word : List Char) : Reader Unit := fun text =>
  if word.isPrefixOf text then some ((), text.drop word.length) else none

/-- The text with another text in the place of every occurrence of a word. -/
def replaceAll (word replacement text : List Char) : List Char :=
  (scan (wordReader word) text).flatMap fun
    | .inl c => [c]
    | .inr () => replacement

end FrontPage.Text
