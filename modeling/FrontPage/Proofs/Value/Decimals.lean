import FrontPage.Clause
import FrontPage.Proofs.Text.Trimming

/-!
# Decimal numbers

A decimal number is a sign or none, digits, and perhaps a point with digits behind it (`WritesDecimal`). Clauses take
exactly these for numbers (`isDecimal_iff`).
-/

namespace FrontPage

open FrontPage.Text

/-- Digits only, and at least one. -/
def Digits (text : List Char) : Prop := text ≠ [] ∧ ∀ c ∈ text, isDecimalDigit c = true

/-- The signs of a number; a number need not have one. -/
def signs : List (List Char) := [[], ['+'], ['-']]

/-- The texts that are decimal numbers. -/
inductive WritesDecimal : List Char → Prop
  | whole {sign digits : List Char} : sign ∈ signs → Digits digits → WritesDecimal (sign ++ digits)
  | pointed {sign digits more : List Char} : sign ∈ signs → Digits digits → Digits more →
      WritesDecimal (sign ++ (digits ++ '.' :: more))

/-! ## Digits -/

/-- Digits are no blanks. -/
theorem isBlank_of_isDecimalDigit {c : Char} (h : isDecimalDigit c = true) : isBlank c = false := by
  have hcodes : ∀ n ∈ blankCodes, isDecimalDigit (Char.ofNat n) = false := by decide +kernel
  cases hb : isBlank c with
  | false => rfl
  | true =>
    have hd := hcodes _ (mem_blankCodes hb)
    rw [Char.ofNat_toNat, h] at hd
    cases hd

namespace Digits

variable {digits : List Char}

theorem exists_cons (h : Digits digits) : ∃ d rest, digits = d :: rest ∧ isDecimalDigit d = true := by
  obtain ⟨hne, hall⟩ := h
  cases digits with
  | nil => exact absurd rfl hne
  | cons d rest => exact ⟨d, rest, rfl, hall d List.mem_cons_self⟩

theorem exists_concat (h : Digits digits) : ∃ before d, digits = before ++ [d] ∧ isDecimalDigit d = true :=
  ⟨digits.dropLast, digits.getLast h.1, (List.dropLast_concat_getLast h.1).symm, h.2 _ (List.getLast_mem h.1)⟩

end Digits

/-- A decimal number begins with a sign or a digit and ends with a digit. -/
theorem WritesDecimal.exists_ends {text : List Char} (h : WritesDecimal text) :
    (∃ c rest, text = c :: rest ∧ (c = '+' ∨ c = '-' ∨ isDecimalDigit c = true)) ∧
      ∃ before d, text = before ++ [d] ∧ isDecimalDigit d = true := by
  have hfirst {sign digits : List Char} (hsign : sign ∈ signs) (hdigits : Digits digits) (more : List Char) :
      ∃ c rest, sign ++ (digits ++ more) = c :: rest ∧ (c = '+' ∨ c = '-' ∨ isDecimalDigit c = true) := by
    obtain ⟨d, rest, rfl, hd⟩ := hdigits.exists_cons
    simp only [signs, List.mem_cons, List.not_mem_nil, or_false] at hsign
    rcases hsign with rfl | rfl | rfl
    · exact ⟨d, rest ++ more, rfl, .inr (.inr hd)⟩
    · exact ⟨'+', _, rfl, .inl rfl⟩
    · exact ⟨'-', _, rfl, .inr (.inl rfl)⟩
  cases h with
  | @whole sign digits hsign hdigits =>
    obtain ⟨before, d, hlast, hd⟩ := hdigits.exists_concat
    exact ⟨by simpa using hfirst hsign hdigits [], sign ++ before, d, by rw [hlast, List.append_assoc], hd⟩
  | @pointed sign digits more hsign hdigits hmore =>
    obtain ⟨before, d, hlast, hd⟩ := hmore.exists_concat
    exact ⟨hfirst hsign hdigits _, sign ++ (digits ++ '.' :: before), d, by simp [hlast], hd⟩

theorem WritesDecimal.firm {text : List Char} (h : WritesDecimal text) : Firm text := by
  obtain ⟨⟨c, rest, hfirst, hc⟩, before, d, hlast, hd⟩ := h.exists_ends
  refine firm_of_ends hfirst ?_ hlast (isBlank_of_isDecimalDigit hd)
  rcases hc with rfl | rfl | hc
  · decide
  · decide
  · exact isBlank_of_isDecimalDigit hc

/-! ## Reading -/

namespace Numeral

/-- Behind a sign, or none, comes what begins with a digit. -/
theorem readSign_append {sign digits : List Char} (hsign : sign ∈ signs) (hdigits : Digits digits)
    (more : List Char) : readSign (sign ++ (digits ++ more)) = (sign == ['-'], digits ++ more) := by
  obtain ⟨d, rest, rfl, hd⟩ := hdigits.exists_cons
  simp only [signs, List.mem_cons, List.not_mem_nil, or_false] at hsign
  rcases hsign with rfl | rfl | rfl
  · have hplus : d ≠ '+' := by
      rintro rfl
      exact absurd hd (by decide)
    have hminus : d ≠ '-' := by
      rintro rfl
      exact absurd hd (by decide)
    simp only [List.nil_append, List.cons_append, readSign]
    split
    · exact absurd (by simp_all) hminus
    · exact absurd (by simp_all) hplus
    · rfl
  · rfl
  · rfl

/-- A text is the sign that is read off it, and the rest. -/
theorem exists_readSign (text : List Char) : ∃ sign ∈ signs, text = sign ++ (readSign text).2 := by
  unfold readSign
  split
  · exact ⟨['-'], by decide, rfl⟩
  · exact ⟨['+'], by decide, rfl⟩
  · exact ⟨[], by decide, rfl⟩

/-- There is no exponent only where nothing is left of the text. -/
theorem readExponent?_eq_none_iff {text : List Char} : readExponent? text = some none ↔ text = [] := by
  cases text with
  | nil => simp [readExponent?]
  | cons c rest =>
    simp only [readExponent?, reduceCtorEq, iff_false]
    split <;> simp

/-- A number without a point is read as its sign and its digits. -/
theorem read?_whole {sign digits : List Char} (hsign : sign ∈ signs) (hdigits : Digits digits) :
    read? (sign ++ digits) = some ⟨sign == ['-'], digits, none, none⟩ := by
  have hread := readSign_append hsign hdigits []
  rw [List.append_nil] at hread
  have htake : digits.takeWhile isDecimalDigit = digits := by simpa using hdigits.2
  have hdrop : digits.dropWhile isDecimalDigit = [] := by simpa using hdigits.2
  have hne : digits.isEmpty = false := by simpa using hdigits.1
  simp [read?, hread, htake, hdrop, readFraction, hne, readExponent?]

/-- A number with a point is read as its sign and the digits before and behind the point. -/
theorem read?_pointed {sign digits more : List Char} (hsign : sign ∈ signs) (hdigits : Digits digits)
    (hmore : Digits more) :
    read? (sign ++ (digits ++ '.' :: more)) = some ⟨sign == ['-'], digits, some more, none⟩ := by
  have hread := readSign_append hsign hdigits ('.' :: more)
  have hpoint : Stops isDecimalDigit ('.' :: more) := stops_cons (by decide)
  have htake : more.takeWhile isDecimalDigit = more := by simpa using hmore.2
  have hdrop : more.dropWhile isDecimalDigit = [] := by simpa using hmore.2
  have hne : digits.isEmpty = false := by simpa using hdigits.1
  simp [read?, hread, takeWhile_run hdigits.2 hpoint, dropWhile_run hdigits.2 hpoint, readFraction, htake, hdrop, hne,
    readExponent?]

/-- A text is the point and the digits that are read off it, if there is a point, and the rest. -/
theorem readFraction_eq (text : List Char) :
    text = ((readFraction text).1.map ('.' :: ·)).getD [] ++ (readFraction text).2 ∧
      ∀ more ∈ (readFraction text).1, ∀ c ∈ more, isDecimalDigit c = true := by
  unfold readFraction
  split
  · refine ⟨congrArg ('.' :: ·) List.takeWhile_append_dropWhile.symm, fun more hm c hc => ?_⟩
    rw [← Option.some.inj hm] at hc
    exact List.mem_takeWhile_imp hc
  · exact ⟨rfl, nofun⟩

/-- What is read without an exponent is a sign or none, the digits, and a point with the digits behind it if there is
one. -/
theorem exists_of_read? {text : List Char} {n : Numeral} (h : read? text = some n) (hexponent : n.exponent = none) :
    ∃ sign ∈ signs, text = sign ++ (n.whole ++ (n.fraction.map ('.' :: ·)).getD []) ∧
      (∀ c ∈ n.whole, isDecimalDigit c = true) ∧ ∀ more ∈ n.fraction, ∀ c ∈ more, isDecimalDigit c = true := by
  obtain ⟨sign, hsign, htext⟩ := exists_readSign text
  simp only [read?] at h
  split at h
  · cases h
  · obtain ⟨exponent, hread, rfl⟩ := Option.map_eq_some_iff.mp h
    rw [show exponent = none from hexponent, readExponent?_eq_none_iff] at hread
    obtain ⟨hfraction, hdigits⟩ := readFraction_eq ((readSign text).2.dropWhile isDecimalDigit)
    rw [hread, List.append_nil] at hfraction
    refine ⟨sign, hsign, ?_, fun c hc => List.mem_takeWhile_imp hc, hdigits⟩
    rw [← hfraction, List.takeWhile_append_dropWhile]
    exact htext

end Numeral

/-- **Clauses take decimal numbers for numbers, and nothing else.** -/
theorem Clause.isDecimal_iff {text : List Char} : isDecimal text = true ↔ WritesDecimal text := by
  rw [isDecimal]
  constructor
  · intro h
    cases hread : Numeral.read? text with
    | none =>
      rw [hread] at h
      cases h
    | some n =>
      rw [hread] at h
      simp only [Bool.and_eq_true, Bool.not_eq_true', List.isEmpty_eq_false_iff, bne_iff_ne, ne_eq,
        Option.isNone_iff_eq_none] at h
      obtain ⟨⟨hwhole, hpoint⟩, hexponent⟩ := h
      obtain ⟨sign, hsign, htext, hdigits, hmore⟩ := Numeral.exists_of_read? hread hexponent
      cases hfraction : n.fraction with
      | none =>
        rw [hfraction, Option.map_none, Option.getD_none, List.append_nil] at htext
        exact htext ▸ .whole hsign ⟨hwhole, hdigits⟩
      | some more =>
        rw [hfraction] at htext hpoint hmore
        have hne : more ≠ [] := fun e => hpoint (congrArg some e)
        exact htext ▸ .pointed hsign ⟨hwhole, hdigits⟩ ⟨hne, hmore more rfl⟩
  · intro h
    cases h with
    | whole hsign hdigits => simpa [Numeral.read?_whole hsign hdigits] using hdigits.1
    | pointed hsign hdigits hmore => simpa [Numeral.read?_pointed hsign hdigits hmore, hmore.1] using hdigits.1

theorem WritesDecimal.ne_nil {text : List Char} (h : WritesDecimal text) : text ≠ [] := by
  obtain ⟨⟨c, rest, rfl, -⟩, -⟩ := h.exists_ends
  exact List.cons_ne_nil _ _

end FrontPage
