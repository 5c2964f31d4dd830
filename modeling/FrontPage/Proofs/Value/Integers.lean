import FrontPage.Proofs.Number.Nearest
import FrontPage.Proofs.Value.Decimals

/-!
# Integers in texts

An integer is written as a minus, if it is negative, and its digits (`toList_toString_int`). The text is a decimal
number (`writesDecimal_int`), and it stands for the number of the binary64 format that is nearest to the integer
(`textNumber?_int`), which is the integer itself only if that is in the format.
-/

namespace FrontPage

open FrontPage.Text

/-! ## Digits -/

/-- The value of an ASCII digit is its distance from zero. -/
theorem Text.digitValue?_of_isDigit {c : Char} (h : c.isDigit = true) : digitValue? c = some (c.toNat - 48) := by
  have hbounds := h
  simp only [Char.isDigit, Bool.and_eq_true, decide_eq_true_eq] at hbounds
  have hle : c.toNat ≤ 57 := UInt32.le_iff_toNat_le.mp hbounds.2
  rw [digitValue?, if_pos (by omega), if_pos h]

/-- The digits of a whole number spell it. -/
theorem Text.digitsValue_toDigits (k : Nat) : digitsValue (Nat.toDigits 10 k) = k := by
  have hspelled : digitsValue (Nat.toDigits 10 k) = Nat.ofDigitChars 10 (Nat.toDigits 10 k) 0 := by
    refine List.foldl_ext _ _ _ fun value c hc => ?_
    rw [digitValue?_of_isDigit (Nat.isDigit_of_mem_toDigits (by decide) (by decide) hc)]
    rfl
  rw [hspelled, Nat.ofDigitChars_ten_toDigits]

/-- A whole number has digits. -/
theorem digits_toDigits (k : Nat) : Digits (Nat.toDigits 10 k) := by
  refine ⟨Nat.toDigits_ne_nil, fun c hc => ?_⟩
  rw [isDecimalDigit, digitValue?_of_isDigit (Nat.isDigit_of_mem_toDigits (by decide) (by decide) hc)]
  rfl

/-! ## The text of an integer -/

/-- The sign of an integer as it is written: a minus, or nothing. -/
def signChars (n : Int) : List Char := if n < 0 then ['-'] else []

theorem signChars_mem_signs (n : Int) : signChars n ∈ signs := by
  rw [signChars]
  split <;> decide

/-- An integer is written as its sign and the digits of its distance from zero. -/
theorem toList_toString_int (n : Int) : (toString n).toList = signChars n ++ Nat.toDigits 10 n.natAbs := by
  cases n with
  | ofNat k =>
    show (Nat.repr k).toList = _
    rw [Nat.repr_eq_ofList_toDigits, String.toList_ofList]
    rfl
  | negSucc k =>
    have hminus : "-".toList = signChars (.negSucc k) := by
      rw [signChars, if_pos (Int.negSucc_lt_zero k)]
      decide
    show ("-" ++ Nat.repr (k + 1)).toList = _
    rw [Nat.repr_eq_ofList_toDigits, String.toList_append, hminus, String.toList_ofList]
    rfl

/-- The text of an integer is a decimal number. -/
theorem writesDecimal_int (n : Int) : WritesDecimal (toString n).toList := by
  rw [toList_toString_int]
  exact .whole (signChars_mem_signs n) (digits_toDigits _)

/-- The text of an integer is read as its sign and its digits. -/
theorem Numeral.read?_int (n : Int) :
    read? (toString n).toList = some ⟨decide (n < 0), Nat.toDigits 10 n.natAbs, none, none⟩ := by
  have hsign : (signChars n == ['-']) = decide (n < 0) := by
    rw [signChars]
    split
    case isTrue hneg => rw [decide_eq_true hneg, beq_self_eq_true]
    case isFalse hnonneg =>
      rw [decide_eq_false hnonneg]
      rfl
  rw [toList_toString_int, read?_whole (signChars_mem_signs n) (digits_toDigits _), hsign]

/-- Digits alone stand for the number nearest to theirs, as an integer if it is finite. -/
theorem Numeral.value_digits (negative : Bool) (digits : List Char) :
    value ⟨negative, digits, none, none⟩ =
      if Binary64.roundUnits (digitsValue digits) 1 < Binary64.overflow then
        .int (if negative then -(Binary64.roundUnits (digitsValue digits) 1 : Int)
          else Binary64.roundUnits (digitsValue digits) 1)
      else .float (.infinite negative) := by
  have hnearest : nearest ⟨negative, digits, none, none⟩ = Binary64.ofQuotient negative (digitsValue digits) 1 := by
    rw [← Binary64.ofDecimal_whole]
    show Binary64.ofDecimal negative (digitsValue (digits ++ [])) 0 = _
    rw [List.append_nil]
  have hwhole : ((none : Option (List Char)).isNone && (none : Option (Bool × List Char)).isNone) = true := rfl
  rw [value, if_pos hwhole, hnearest, Binary64.ofQuotient_whole]
  by_cases hlt : Binary64.roundUnits (digitsValue digits) 1 < Binary64.overflow
  · rw [if_pos hlt, if_pos hlt, Binary64.truncate?_whole]
  · rw [if_neg hlt, if_neg hlt]
    rfl

/-- **The text of an integer stands for the number nearest to it.** -/
theorem textNumber?_int (n : Int) : textNumber? (toString n) = some (.nearestInt n) := by
  rw [textNumber?, (writesDecimal_int n).firm.trim_eq, Numeral.read?_int, Option.map_some, Numeral.value_digits,
    digitsValue_toDigits, Number.nearestInt, Number.sign_mul_roundUnits]
  simp only [decide_eq_true_eq]

theorem Value.toNumber?_text_int (n : Int) : (Value.text (toString n)).toNumber? = some (.nearestInt n) :=
  textNumber?_int n

end FrontPage
