import FrontPage.Number
import Mathlib.Algebra.Group.Nat.Defs

/-!
# Integers as binary numbers

An integer of at most 53 significant bits is in the binary64 format, if it is not too large (`Binary64.HasInt`). Any
other stands for the nearest one that is, or for an infinity (`Number.nearestInt`, `Number.nearestInt_nearest`).
Rounding works on counts of units, and a whole number is rounded alike in ones and in units
(`Binary64.roundUnits_mul_two_pow`), so that the digits of an integer stand for its nearest number
(`Binary64.ofDecimal_whole`).
-/

namespace FrontPage

namespace Binary64

/-- The first whole number that is too large for the format. -/
def overflow : Nat := Nat.pow 2 1024

/-- The whole number has at most 53 significant bits. -/
def HasBits (k : Nat) : Prop := ∃ significand exponent, significand < 2 ^ 53 ∧ k = significand * 2 ^ exponent

/-- The integer is in the format. -/
def HasInt (n : Int) : Prop := n.natAbs < overflow ∧ HasBits n.natAbs

section

variable {k l : Nat}

/-! ## Grains of whole numbers -/

theorem grain_eq (k : Nat) : grain k = 2 ^ (k.log2 - 52) := rfl

theorem grain_pos (k : Nat) : 0 < grain k := Nat.two_pow_pos _

/-- The powers of two around a whole number move with it. -/
theorem log2_mul_two_pow (hk : k ≠ 0) (e : Nat) : (k * 2 ^ e).log2 = k.log2 + e := by
  have hpos := Nat.two_pow_pos e
  rw [Nat.log2_eq_iff (Nat.mul_ne_zero hk (Nat.ne_of_gt hpos)), Nat.add_right_comm, Nat.pow_add, Nat.pow_add]
  exact ⟨Nat.mul_le_mul_right _ (Nat.log2_self_le hk), Nat.mul_lt_mul_of_pos_right Nat.lt_log2_self hpos⟩

/-- Of larger numbers the grain is coarser. -/
theorem grain_dvd_grain (h : k.log2 ≤ l.log2) : grain k ∣ grain l := Nat.pow_dvd_pow 2 (Nat.sub_le_sub_right h 52)

/-- In grains, a whole number has no more than 53 bits. -/
theorem div_grain_lt (k : Nat) : k / grain k < 2 ^ 53 := by
  rw [Nat.div_lt_iff_lt_mul (grain_pos k), grain_eq, ← Nat.pow_add]
  exact Nat.lt_of_lt_of_le Nat.lt_log2_self (Nat.pow_le_pow_right (by decide) (by omega))

/-- The power of two below a whole number is a multiple of its grain. -/
theorem two_pow_log2_eq (k : Nat) : 2 ^ k.log2 = 2 ^ (k.log2 - (k.log2 - 52)) * grain k := by
  rw [grain_eq, ← Nat.pow_add, Nat.sub_add_cancel (Nat.sub_le ..)]

theorem hasBits_zero : HasBits 0 := ⟨0, 0, by decide, rfl⟩

/-- The multiples of their grain are the whole numbers of at most 53 significant bits. -/
theorem grain_dvd_iff : grain k ∣ k ↔ HasBits k := by
  constructor
  · intro h
    exact ⟨k / grain k, k.log2 - 52, div_grain_lt k, (Nat.div_mul_cancel h).symm⟩
  · rintro ⟨significand, exponent, hlt, rfl⟩
    rcases Nat.eq_zero_or_pos significand with rfl | hpos
    · rw [Nat.zero_mul]
      exact Nat.dvd_zero _
    · have hne := Nat.ne_of_gt hpos
      have hlog : significand.log2 < 53 := (Nat.log2_lt hne).mpr hlt
      rw [grain_eq, log2_mul_two_pow hne]
      exact Nat.dvd_mul_left_of_dvd (Nat.pow_dvd_pow 2 (by omega)) _

/-! ## Rounding whole numbers -/

/-- A quotient is rounded to one of the whole numbers next to it, the nearer one. -/
theorem roundQuotient_cases (numerator denominator : Nat) :
    roundQuotient numerator denominator = numerator / denominator ∧
        2 * (numerator % denominator) ≤ denominator ∨
      roundQuotient numerator denominator = numerator / denominator + 1 ∧
        denominator ≤ 2 * (numerator % denominator) := by
  simp only [roundQuotient]
  split
  case isTrue h =>
    simp only [Bool.or_eq_true, decide_eq_true_eq, Bool.and_eq_true, beq_iff_eq] at h
    omega
  case isFalse h =>
    simp only [Bool.or_eq_true, decide_eq_true_eq, Bool.and_eq_true, beq_iff_eq, not_or] at h
    omega

/-- A quotient without a remainder is its own rounding. -/
theorem roundQuotient_mul (q : Nat) {denominator : Nat} (h : 0 < denominator) :
    roundQuotient (q * denominator) denominator = q := by
  have hcases := roundQuotient_cases (q * denominator) denominator
  rw [Nat.mul_div_cancel _ h, Nat.mul_mod_left] at hcases
  omega

/-- A quotient is rounded as before when both its terms are multiplied. -/
theorem roundQuotient_mul_right (numerator denominator : Nat) {c : Nat} (h : 0 < c) :
    roundQuotient (numerator * c) (denominator * c) = roundQuotient numerator denominator := by
  have htwice : 2 * (numerator % denominator * c) = 2 * (numerator % denominator) * c := (Nat.mul_assoc ..).symm
  have hlt : denominator * c < 2 * (numerator % denominator) * c ↔ denominator < 2 * (numerator % denominator) :=
    Nat.mul_lt_mul_right h
  have heq :
      (2 * (numerator % denominator) * c == denominator * c) = (2 * (numerator % denominator) == denominator) := by
    rw [Bool.eq_iff_iff, beq_iff_eq, beq_iff_eq, Nat.mul_right_cancel_iff h]
  simp only [roundQuotient, Nat.mul_div_mul_right _ _ h, Nat.mul_mod_mul_right, htwice, hlt, heq]

/-- A whole number is rounded in grains. -/
theorem roundUnits_one (k : Nat) : roundUnits k 1 = roundQuotient k (grain k) * grain k := by
  simp only [roundUnits, Nat.div_one, Nat.one_mul]

/-- A whole number is its own rounding if it has at most 53 significant bits. -/
theorem roundUnits_one_eq_self_iff : roundUnits k 1 = k ↔ HasBits k := by
  rw [← grain_dvd_iff, roundUnits_one]
  constructor
  · exact fun h => ⟨_, h.symm.trans (Nat.mul_comm ..)⟩
  · intro h
    have hround := roundQuotient_mul (k / grain k) (grain_pos k)
    rw [Nat.div_mul_cancel h] at hround
    rw [hround, Nat.div_mul_cancel h]

/-- **Whole numbers are rounded alike on every scale.** -/
theorem roundUnits_mul_two_pow (k e : Nat) : roundUnits (k * 2 ^ e) 1 = roundUnits k 1 * 2 ^ e := by
  by_cases hbits : HasBits k
  · obtain ⟨significand, exponent, hlt, hk⟩ := hbits
    have hscaled : HasBits (k * 2 ^ e) := ⟨significand, exponent + e, hlt, by rw [hk, Nat.pow_add, Nat.mul_assoc]⟩
    rw [roundUnits_one_eq_self_iff.mpr hscaled, roundUnits_one_eq_self_iff.mpr ⟨_, _, hlt, hk⟩]
  · -- There are more than 53 bits, and the grain moves with the number.
    have hne : k ≠ 0 := fun hzero => hbits (hzero ▸ hasBits_zero)
    have hlog : 52 < k.log2 := by
      apply Nat.lt_of_not_le
      intro hle
      exact hbits ⟨k, 0, (Nat.log2_lt hne).mp (by omega), (Nat.mul_one k).symm⟩
    have hgrain : grain (k * 2 ^ e) = grain k * 2 ^ e := by
      rw [grain_eq, grain_eq, log2_mul_two_pow hne, ← Nat.pow_add]
      congr 1
      omega
    rw [roundUnits_one, roundUnits_one, hgrain, roundQuotient_mul_right _ _ (Nat.two_pow_pos e), Nat.mul_assoc]

/-- The rounding of a whole number has at most 53 significant bits. -/
theorem hasBits_roundUnits (k : Nat) : HasBits (roundUnits k 1) := by
  rw [roundUnits_one]
  have hdiv := div_grain_lt k
  by_cases hlt : roundQuotient k (grain k) < 2 ^ 53
  · exact ⟨_, _, hlt, rfl⟩
  · -- Rounding up may take one bit more, but then that is the only one.
    have hround : roundQuotient k (grain k) = 2 ^ 53 := by
      have hcases := roundQuotient_cases k (grain k)
      omega
    exact ⟨1, 53 + (k.log2 - 52), by decide, by rw [hround, grain_eq, ← Nat.pow_add, Nat.one_mul]⟩

/-- A quotient is rounded to the nearest multiple of its denominator. -/
theorem roundQuotient_nearest (numerator q : Nat) {denominator : Nat} (h : 0 < denominator) :
    ((numerator : Int) - (roundQuotient numerator denominator * denominator : Nat)).natAbs ≤
      ((numerator : Int) - (q * denominator : Nat)).natAbs := by
  have hdiv := Nat.div_add_mod numerator denominator
  rw [Nat.mul_comm] at hdiv
  have hmod := Nat.mod_lt numerator h
  -- Any multiple is at or below the one below the quotient, or at or above the one above it.
  have hside : q * denominator ≤ numerator / denominator * denominator ∨
      numerator / denominator * denominator + denominator ≤ q * denominator := by
    rcases Nat.lt_or_ge (numerator / denominator) q with hlt | hge
    · refine .inr ?_
      rw [← Nat.succ_mul]
      exact Nat.mul_le_mul_right _ hlt
    · exact .inl (Nat.mul_le_mul_right _ hge)
  rcases roundQuotient_cases numerator denominator with ⟨hround, hhalf⟩ | ⟨hround, hhalf⟩
  · rw [hround]
    omega
  · rw [hround, Nat.add_one_mul]
    omega

/-- **A whole number is rounded to the nearest of at most 53 significant bits.** -/
theorem roundUnits_nearest (hl : HasBits l) :
    ((k : Int) - (roundUnits k 1 : Nat)).natAbs ≤ ((k : Int) - (l : Nat)).natAbs := by
  by_cases hbits : HasBits k
  · rw [roundUnits_one_eq_self_iff.mpr hbits]
    omega
  have hne : k ≠ 0 := fun hzero => hbits (hzero ▸ hasBits_zero)
  rw [roundUnits_one]
  by_cases hlt : l < 2 ^ k.log2
  · -- The power of two below the number is nearer, and a multiple of the grain.
    have hpow := roundQuotient_nearest k (2 ^ (k.log2 - (k.log2 - 52))) (grain_pos k)
    rw [← two_pow_log2_eq] at hpow
    have hle := Nat.log2_self_le hne
    omega
  · have hlne : l ≠ 0 := by
      rintro rfl
      exact hlt (Nat.two_pow_pos _)
    have hlog : k.log2 ≤ l.log2 := (Nat.le_log2 hlne).mpr (Nat.le_of_not_lt hlt)
    obtain ⟨q, hq⟩ := Nat.dvd_trans (grain_dvd_grain hlog) (grain_dvd_iff.mpr hl)
    have hmultiple := roundQuotient_nearest k q (grain_pos k)
    rwa [Nat.mul_comm q, ← hq] at hmultiple

/-! ## Decimal digits without a point -/

theorem exists_overflow : ∃ e, e = 1024 ∧ overflow = 2 ^ e := ⟨1024, rfl, by decide +kernel⟩

theorem exists_unitsPerOne : ∃ e, unitsPerOne = 2 ^ e := ⟨1074, by decide +kernel⟩

/-- The counts of units that are too large are those of the whole numbers that are. -/
theorem mul_unitsPerOne_lt_overflowUnits : k * unitsPerOne < overflowUnits ↔ k < overflow := by
  have hunits : overflowUnits = overflow * unitsPerOne := by decide +kernel
  rw [hunits, Nat.mul_lt_mul_right unitsPerOne_pos]

/-- A whole number of more than 1024 bits is rounded to one that is too large. -/
theorem overflow_le_roundUnits (h : 1024 ≤ k.log2) : overflow ≤ roundUnits k 1 := by
  obtain ⟨bits, hbits, hoverflow⟩ := exists_overflow
  have hne : k ≠ 0 := by
    rintro rfl
    cases h
  have hbelow : 2 ^ (k.log2 - (k.log2 - 52)) ≤ k / grain k := by
    rw [Nat.le_div_iff_mul_le (grain_pos k), ← two_pow_log2_eq]
    exact Nat.log2_self_le hne
  have hround : k / grain k ≤ roundQuotient k (grain k) := by
    have hcases := roundQuotient_cases k (grain k)
    omega
  calc overflow = 2 ^ bits := hoverflow
    _ ≤ 2 ^ k.log2 := Nat.pow_le_pow_right (by decide) (hbits ▸ h)
    _ = 2 ^ (k.log2 - (k.log2 - 52)) * grain k := two_pow_log2_eq k
    _ ≤ roundQuotient k (grain k) * grain k := Nat.mul_le_mul_right _ (Nat.le_trans hbelow hround)
    _ = roundUnits k 1 := (roundUnits_one k).symm

/-- The number nearest to a whole number is its rounding, or an infinity when that is too large. -/
theorem ofQuotient_whole (negative : Bool) (k : Nat) :
    ofQuotient negative k 1 =
      if roundUnits k 1 < overflow then .finite negative (roundUnits k 1 * unitsPerOne) else .infinite negative := by
  obtain ⟨bits, hbits⟩ := exists_unitsPerOne
  have hscale : roundUnits (k * unitsPerOne) 1 = roundUnits k 1 * unitsPerOne := by
    rw [hbits]
    exact roundUnits_mul_two_pow k bits
  rw [ofQuotient, hscale, ofUnits]
  simp only [mul_unitsPerOne_lt_overflowUnits]

theorem roundUnits_zero : roundUnits 0 1 = 0 := roundUnits_one_of_lt (Nat.pow_pos (by decide))

/-- **Digits without a point stand for the number nearest to theirs.** -/
theorem ofDecimal_whole (negative : Bool) (k : Nat) : ofDecimal negative k 0 = ofQuotient negative k 1 := by
  rw [ofDecimal]
  split
  case isTrue hzero =>
    simp only [Bool.or_eq_true, decide_eq_true_eq] at hzero
    obtain rfl : k = 0 := by omega
    rw [ofQuotient_whole, roundUnits_zero, Nat.zero_mul, if_pos (by decide +kernel)]
  case isFalse =>
  split
  case isTrue hlarge =>
    rw [ofQuotient_whole, if_neg (Nat.not_lt_of_le (overflow_le_roundUnits (by omega)))]
  case isFalse => exact congrArg (ofQuotient negative · 1) (Nat.mul_one k)

/-- The whole part of a whole number is the number. -/
theorem truncate?_whole (negative : Bool) (k : Nat) :
    (finite negative (k * unitsPerOne)).truncate? = some (if negative then -(k : Int) else k) := by
  have hwhole : ((k * unitsPerOne : Nat) : Int) / unitsPerOne = k := by
    rw [← Int.natCast_ediv, Nat.mul_div_cancel _ unitsPerOne_pos]
  rw [truncate?, hwhole]

end

end Binary64

namespace Number

variable {n k : Int}

/-- The number of the binary64 format that is nearest to an integer, as an integer if it is finite. -/
def nearestInt (n : Int) : Number :=
  if Binary64.roundUnits n.natAbs 1 < Binary64.overflow then .int (n.sign * Binary64.roundUnits n.natAbs 1)
  else .float (.infinite (n < 0))

/-- The rounding of the distance from zero, on the side of the integer. -/
theorem sign_mul_roundUnits (n : Int) :
    n.sign * Binary64.roundUnits n.natAbs 1 =
      if n < 0 then -(Binary64.roundUnits n.natAbs 1 : Int) else Binary64.roundUnits n.natAbs 1 := by
  rcases Int.lt_trichotomy n 0 with hneg | rfl | hpos
  · rw [Int.sign_eq_neg_one_of_neg hneg, if_pos hneg]
    omega
  · rw [Int.natAbs_zero, Binary64.roundUnits_zero]
    decide
  · rw [Int.sign_eq_one_of_pos hpos, if_neg (by omega)]
    omega

/-- The nearest number is on the same side of zero, and as far from it as the rounding of the distance. -/
theorem eq_of_nearestInt (h : nearestInt n = .int k) :
    Binary64.roundUnits n.natAbs 1 < Binary64.overflow ∧ k.natAbs = Binary64.roundUnits n.natAbs 1 ∧
      (n - k).natAbs = ((n.natAbs : Int) - (Binary64.roundUnits n.natAbs 1 : Nat)).natAbs := by
  rw [nearestInt] at h
  split at h
  case isFalse => cases h
  case isTrue hlt =>
  have hk := Number.int.inj h
  rw [sign_mul_roundUnits] at hk
  refine ⟨hlt, ?_⟩
  split at hk <;> omega

/-- **A finite nearest number is in the format, and no integer of the format is nearer.** -/
theorem nearestInt_nearest (h : nearestInt n = .int k) :
    Binary64.HasInt k ∧ ∀ l, Binary64.HasInt l → (n - k).natAbs ≤ (n - l).natAbs := by
  obtain ⟨hlt, hround, hdistance⟩ := eq_of_nearestInt h
  refine ⟨⟨hround ▸ hlt, hround ▸ Binary64.hasBits_roundUnits _⟩, fun l hl => ?_⟩
  have hnearest := @Binary64.roundUnits_nearest n.natAbs _ hl.2
  omega

/-- The integers that are their own nearest number are those of the format. -/
theorem nearestInt_eq_self_iff : nearestInt n = .int n ↔ Binary64.HasInt n := by
  constructor
  · exact fun h => (nearestInt_nearest h).1
  · rintro ⟨hlt, hbits⟩
    have hround := Binary64.roundUnits_one_eq_self_iff.mpr hbits
    rw [nearestInt, hround, if_pos hlt, Int.sign_mul_natAbs]

end Number

end FrontPage
