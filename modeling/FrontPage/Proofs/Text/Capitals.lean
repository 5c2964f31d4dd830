import FrontPage.Proofs.Text.Casing
import FrontPage.Text.Upper
import Mathlib.Data.List.Forall2
import Mathlib.Data.List.Infix

/-!
# Upper case and ASCII letters

A word has a certain upper case if each of its characters has one letter of it, unless some character becomes several
letters that stand there (`flatMap_upperChar_eq_iff`). An ASCII capital is the upper case of itself and of its small
letter, and beyond ASCII only of the dotless i, if it is `I`, and of the long s, if it is `S` (`upperChar_eq_iff`).
-/

namespace FrontPage.Text

/-! ## Characters -/

/-- The runs of small letters that are no ASCII letters lead to capitals that are none, but for the dotless i and the
long s. -/
theorem smallRuns_le : ∀ run ∈ smallRuns, run.first = run.last ∧ (run.first = 305 ∧ run.shift = -232 ∨
      run.first = 383 ∧ run.shift = -300) ∨
    128 ≤ run.first + run.shift ∧ (run.last + run.shift < 0xD800 ∨
      0xDFFF < run.first + run.shift ∧ run.last + run.shift < 0x110000) := by
  decide +kernel

/-- The upper case of what is no ASCII character is one of the expansions or one character, which is no ASCII
character but for the capitals of the dotless i and the long s. -/
theorem upperChar_of_le {c : Char} (h : 128 ≤ c.toNat) :
    (∃ units ∈ expansions.map Prod.snd, upperChar c = units.map Char.ofNat) ∨ c = 'ı' ∧ upperChar c = ['I'] ∨
      c = 'ſ' ∧ upperChar c = ['S'] ∨ ∃ d, upperChar c = [d] ∧ 128 ≤ d.toNat := by
  have hcode {n : Nat} (hn : c.toNat = n) : c = Char.ofNat n := by rw [← hn, Char.ofNat_toNat]
  rw [upperChar, if_neg (by omega)]
  cases hunits : expansions.lookup c.toNat with
  | some units =>
    obtain ⟨before, behind, hsplit, -⟩ := List.lookup_eq_some_iff.mp hunits
    have hmem : (c.toNat, units) ∈ expansions := hsplit ▸ List.mem_append_right _ List.mem_cons_self
    exact .inl ⟨units, List.mem_map_of_mem hmem, rfl⟩
  | none =>
    cases hfound : smallRuns.find?
        fun r => r.first ≤ c.toNat && c.toNat ≤ r.last && (c.toNat - r.first) % r.step == 0 with
    | none => exact .inr (.inr (.inr ⟨c, rfl, h⟩))
    | some run =>
      have hbounds := List.find?_some hfound
      simp only [Bool.and_eq_true, decide_eq_true_eq] at hbounds
      obtain ⟨⟨hfirst, hlast⟩, -⟩ := hbounds
      rcases smallRuns_le run (List.mem_of_find?_eq_some hfound) with ⟨hone, hi | hs⟩ | ⟨habove, hvalid⟩
      · have hc : c.toNat = 305 := by omega
        have hcapital : Char.ofNat ((c.toNat : Int) + run.shift).toNat = 'I' := by
          rw [hc, hi.2]
          rfl
        exact .inr (.inl ⟨hcode hc, congrArg (fun d => [d]) hcapital⟩)
      · have hc : c.toNat = 383 := by omega
        have hcapital : Char.ofNat ((c.toNat : Int) + run.shift).toNat = 'S' := by
          rw [hc, hs.2]
          rfl
        exact .inr (.inr (.inl ⟨hcode hc, congrArg (fun d => [d]) hcapital⟩))
      · exact .inr (.inr (.inr ⟨_, rfl, CaseRun.le_toNat_shifted habove hvalid hfirst hlast⟩))

/-- The upper case of a character is one character or one of the expansions. -/
theorem upperChar_cases (c : Char) :
    (∃ d, upperChar c = [d]) ∨ ∃ units ∈ expansions.map Prod.snd, upperChar c = units.map Char.ofNat := by
  by_cases hc : c.toNat < 128
  · exact .inl ⟨c.toUpper, if_pos hc⟩
  · rcases upperChar_of_le (Nat.le_of_not_lt hc) with hunits | ⟨-, hi⟩ | ⟨-, hs⟩ | ⟨d, hd, -⟩
    · exact .inr hunits
    · exact .inl ⟨_, hi⟩
    · exact .inl ⟨_, hs⟩
    · exact .inl ⟨d, hd⟩

/-- The characters that have an ASCII capital as their upper case. -/
theorem upperChar_eq_iff {c letter : Char} (h : letter.isUpper = true) :
    upperChar c = [letter] ↔ c = letter ∨ c = letter.toLower ∨ letter = 'I' ∧ c = 'ı' ∨ letter = 'S' ∧ c = 'ſ' := by
  have hascii : letter.toNat < 128 := by
    have hle : letter.toNat ≤ 90 := UInt32.le_iff_toNat_le.mp (of_decide_eq_true h).2
    omega
  have hcapitals : ∀ n : Fin 128, (Char.ofNat n).isUpper = true →
      upperChar (Char.ofNat n) = [Char.ofNat n] ∧ upperChar (Char.ofNat n).toLower = [Char.ofNat n] := by
    decide +kernel
  have hcharacters : ∀ n : Fin 128, (Char.ofNat n).toUpper = Char.ofNat n ∨
      Char.ofNat n = (Char.ofNat n).toUpper.toLower := by
    decide +kernel
  constructor
  · intro hupper
    by_cases hc : c.toNat < 128
    · have hcase := hcharacters ⟨c.toNat, hc⟩
      rw [upperChar, if_pos hc, List.cons.injEq] at hupper
      rw [Char.ofNat_toNat, hupper.1] at hcase
      exact hcase.imp Eq.symm .inl
    · rcases upperChar_of_le (Nat.le_of_not_lt hc) with ⟨units, hunits, heq⟩ | ⟨hc, hi⟩ | ⟨hc, hs⟩ | ⟨d, hd, hle⟩
      · have hlong : ∀ units ∈ expansions.map Prod.snd, 2 ≤ units.length := by decide +kernel
        have hlength := hlong units hunits
        rw [← List.length_map Char.ofNat, ← heq, hupper] at hlength
        exact absurd hlength (Nat.not_succ_le_self 1)
      · rw [hi, List.cons.injEq] at hupper
        exact .inr (.inr (.inl ⟨hupper.1.symm, hc⟩))
      · rw [hs, List.cons.injEq] at hupper
        exact .inr (.inr (.inr ⟨hupper.1.symm, hc⟩))
      · rw [hd, List.cons.injEq] at hupper
        rw [hupper.1] at hle
        omega
  · have hletter := hcapitals ⟨letter.toNat, hascii⟩
    rw [Char.ofNat_toNat] at hletter
    rintro (rfl | rfl | ⟨rfl, rfl⟩ | ⟨rfl, rfl⟩)
    · exact (hletter h).1
    · exact (hletter h).2
    · decide +kernel
    · decide +kernel

/-! ## Words -/

/-- A word has some letters as its upper case if its characters have the single ones, where no character becomes
several of them. -/
theorem flatMap_upperChar_eq_iff {word letters : List Char}
    (h : ∀ units ∈ expansions.map Prod.snd, ∀ tail ∈ letters.tails, ¬units.map Char.ofNat <+: tail) :
    word.flatMap upperChar = letters ↔ List.Forall₂ (fun c letter => upperChar c = [letter]) word letters := by
  induction word generalizing letters with
  | nil => rw [List.flatMap_nil, List.forall₂_nil_left_iff, eq_comm]
  | cons c word ih =>
    rw [List.flatMap_cons]
    rcases upperChar_cases c with ⟨d, hd⟩ | ⟨units, hunits, hexpansion⟩
    · rw [hd]
      cases letters with
      | nil => exact ⟨nofun, nofun⟩
      | cons letter letters =>
        rw [List.tails_cons] at h
        have hrest := @ih letters fun units hunits tail htail => h units hunits tail (List.mem_cons_of_mem _ htail)
        rw [List.singleton_append, List.cons.injEq, hrest, List.forall₂_cons, hd, List.cons.injEq, and_assoc]
        exact ⟨fun ⟨hletter, hword⟩ => ⟨hletter, rfl, hword⟩, fun ⟨hletter, _, hword⟩ => ⟨hletter, hword⟩⟩
    · have hnone := h units hunits letters ((List.mem_tails ..).mpr (List.suffix_refl _))
      rw [← hexpansion] at hnone
      constructor
      · rintro rfl
        exact absurd (List.prefix_append _ _) hnone
      · intro hforall
        cases hforall with
        | cons hletter _ =>
          rw [hletter] at hnone
          exact absurd (List.prefix_append [_] _) hnone

end FrontPage.Text
