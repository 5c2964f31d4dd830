import FrontPage.Text.Scan
import Mathlib.Data.Nat.Find

/-!
# Occurrences of a word in a text

`cut?` splits a text at the first place where a word stands (`cut?_of_firstAt`) and fails exactly if the word stands
nowhere (`cut?_isSome_iff`). Two words that never share a character (`Apart`) stand behind one another wherever both
stand in a text (`OccursAt.length_le`).
-/

namespace FrontPage.Text

/-- A word stands at a place of a text. -/
def OccursAt (word text : List Char) (k : Nat) : Prop := word <+: text.drop k

/-- The first place of a text at which a word stands. -/
def FirstAt (word text : List Char) (k : Nat) : Prop := OccursAt word text k ∧ ∀ j < k, ¬OccursAt word text j

instance (word text : List Char) (k : Nat) : Decidable (OccursAt word text k) :=
  inferInstanceAs (Decidable (word <+: text.drop k))

instance (word text : List Char) (k : Nat) : Decidable (FirstAt word text k) :=
  inferInstanceAs (Decidable (OccursAt word text k ∧ ∀ j < k, ¬OccursAt word text j))

section

variable {word text : List Char} {k : Nat}

/-- A word that stands somewhere stands at a first place. -/
theorem OccursAt.exists_firstAt (h : OccursAt word text k) : ∃ j, FirstAt word text j :=
  ⟨Nat.find ⟨k, h⟩, Nat.find_spec ⟨k, h⟩, fun _ => Nat.find_min ⟨k, h⟩⟩

/-- The characters of a text where a word stands are those of the word. -/
theorem OccursAt.getElem? (h : OccursAt word text k) {i : Nat} (hi : i < word.length) : text[k + i]? = word[i]? := by
  obtain ⟨behind, hb⟩ := h
  rw [← List.getElem?_drop, ← hb, List.getElem?_append_left hi]

/-- A word stands in the rest of a text where it stands in the text. -/
theorem occursAt_drop {m : Nat} : OccursAt word (text.drop m) k ↔ OccursAt word text (m + k) := by
  rw [OccursAt, OccursAt, List.drop_drop]

/-- A word stands in the beginning of a text where it stands in the text and ends within. -/
theorem occursAt_take (hne : word ≠ []) {m : Nat} :
    OccursAt word (text.take m) k ↔ OccursAt word text k ∧ k + word.length ≤ m := by
  have hpos : 0 < word.length := List.length_pos_iff.mpr hne
  rw [OccursAt, OccursAt, List.drop_take, List.prefix_take_iff]
  constructor
  · rintro ⟨h, hl⟩
    exact ⟨h, by omega⟩
  · rintro ⟨h, hl⟩
    exact ⟨h, by omega⟩

/-- In a text with one more character in front, the first place of a word is one further, unless it is in front. -/
theorem firstAt_cons_succ {c : Char} :
    FirstAt word (c :: text) (k + 1) ↔ ¬word <+: c :: text ∧ FirstAt word text k := by
  constructor
  · rintro ⟨h, hmin⟩
    exact ⟨hmin 0 (Nat.succ_pos k), h, fun j hj => hmin (j + 1) (Nat.succ_lt_succ hj)⟩
  · rintro ⟨h₀, h, hmin⟩
    refine ⟨h, fun j hj => ?_⟩
    cases j with
    | zero => exact h₀
    | succ j => exact hmin j (Nat.lt_of_succ_lt_succ hj)

/-! ## Cutting -/

/-- Cutting at a word splits a text around the first place where it stands. -/
theorem cut?_of_firstAt (h : FirstAt word text k) :
    cut? word text = some (text.take k, text.drop (k + word.length)) := by
  induction text generalizing k with
  | nil =>
    obtain ⟨h, hmin⟩ := h
    rw [OccursAt, List.drop_nil, List.prefix_nil] at h
    subst h
    simp [cut?]
  | cons c text ih =>
    cases k with
    | zero =>
      have hp : word <+: c :: text := h.1
      rw [cut?, if_pos (List.isPrefixOf_iff_prefix.mpr hp), List.take_zero, Nat.zero_add]
    | succ k =>
      obtain ⟨hp, h⟩ := firstAt_cons_succ.mp h
      rw [cut?, if_neg (mt List.isPrefixOf_iff_prefix.mp hp), ih h, Nat.succ_add]
      rfl

/-- A text can be cut at a word if and only if the word stands in it. -/
theorem cut?_isSome_iff : (cut? word text).isSome ↔ ∃ k, OccursAt word text k := by
  constructor
  · intro h
    obtain ⟨⟨before, behind⟩, hc⟩ := Option.isSome_iff_exists.mp h
    refine ⟨before.length, behind, ?_⟩
    rw [eq_of_cut? hc, List.append_assoc, List.drop_left]
  · rintro ⟨k, h⟩
    obtain ⟨j, hj⟩ := h.exists_firstAt
    rw [cut?_of_firstAt hj]
    rfl

/-- A text can be cut at a word if and only if the word joins two parts of it. -/
theorem cut?_isSome_iff_exists_append : (cut? word text).isSome ↔ ∃ front back, text = front ++ word ++ back := by
  constructor
  · intro h
    obtain ⟨parts, hparts⟩ := Option.isSome_iff_exists.mp h
    exact ⟨parts.1, parts.2, eq_of_cut? hparts⟩
  · rintro ⟨front, back, rfl⟩
    refine cut?_isSome_iff.mpr ⟨front.length, back, ?_⟩
    rw [List.append_assoc, List.drop_left]

/-- A text in which a word stands nowhere cannot be cut at it. -/
theorem cut?_of_absent (h : ∀ k, ¬OccursAt word text k) : cut? word text = none := by
  cases hc : cut? word text with
  | none => rfl
  | some parts =>
    obtain ⟨k, hk⟩ := cut?_isSome_iff.mp (by rw [hc]; rfl)
    exact absurd hk (h k)

/-! ## Replacing -/

/-- Where a word does not stand in front, the first character stays. -/
theorem replaceAll_cons_of_not_begins {c : Char} (h : ¬word <+: c :: text) (replacement : List Char) :
    replaceAll word replacement (c :: text) = c :: replaceAll word replacement text := by
  have hread : wordReader word (c :: text) = none := if_neg (mt List.isPrefixOf_iff_prefix.mp h)
  rw [replaceAll, scan_cons_of_none hread]
  rfl

/-- A word in front is replaced. -/
theorem replaceAll_append_self (hne : word ≠ []) (replacement text : List Char) :
    replaceAll word replacement (word ++ text) = replacement ++ replaceAll word replacement text := by
  obtain ⟨d, taken, rfl⟩ := List.exists_cons_of_ne_nil hne
  have hread : wordReader (d :: taken) (d :: (taken ++ text)) = some ((), text) := by simp [wordReader]
  rw [List.cons_append, replaceAll, scan_cons_of_some hread]
  rfl

/-- Replacing a word of one letter goes letter by letter. -/
theorem replaceAll_singleton (d : Char) (replacement text : List Char) :
    replaceAll [d] replacement text = text.flatMap fun c => if c = d then replacement else [c] := by
  induction text with
  | nil => rfl
  | cons c text ih =>
    by_cases h : c = d
    · have hfront := replaceAll_append_self (List.cons_ne_nil d []) replacement text
      rw [List.singleton_append] at hfront
      rw [h, hfront, ih, List.flatMap_cons, if_pos rfl]
    · have hother : ¬[d] <+: c :: text := fun hp => h (List.cons_prefix_cons.mp hp).1.symm
      rw [replaceAll_cons_of_not_begins hother, ih, List.flatMap_cons, if_neg h, List.singleton_append]

end

/-! ## Words apart -/

/-- Wherever another word would begin within a word, some character of the two differs. -/
def Apart (word other : List Char) : Prop :=
  ∀ d < word.length, ∃ i < other.length, d + i < word.length ∧ word[d + i]? ≠ other[i]?

instance (word other : List Char) : Decidable (Apart word other) :=
  inferInstanceAs (Decidable (∀ d < word.length, ∃ i < other.length, d + i < word.length ∧ word[d + i]? ≠ other[i]?))

/-- Of two words apart, one that stands no earlier than the other stands behind its end. -/
theorem OccursAt.length_le {word other text : List Char} {a b : Nat} (hw : OccursAt word text a)
    (ho : OccursAt other text b) (hap : Apart word other) (hab : a ≤ b) : a + word.length ≤ b := by
  by_contra hlt
  obtain ⟨i, hi, hd, hne⟩ := hap (b - a) (by omega)
  have hword := hw.getElem? hd
  have hother := ho.getElem? hi
  rw [show a + (b - a + i) = b + i by omega, hother] at hword
  exact hne hword.symm

end FrontPage.Text
