import FrontPage.Number

/-!
# Order of numbers

Numbers are compared by the places at which they stand, and places are in a linear order (`less_of_lessEqual_of_less`).
Integers are compared as integers (`less_int`), and the whole part of a positive number is not negative
(`truncate_nonneg`).
-/

namespace FrontPage

namespace Place

theorem compare_units (m n : Int) : (units m).compare (units n) = Ord.compare m n := rfl

theorem compare_eq_iff {p q : Place} : p.compare q = .eq ↔ p = q := by
  cases p <;> cases q <;> simp [compare]

theorem compare_lt_trans {p q r : Place} (h : p.compare q = .lt) (h' : q.compare r = .lt) : p.compare r = .lt := by
  cases p <;> cases q <;> cases r <;> simp_all [compare, Std.compare_eq_lt]
  omega

end Place

namespace Number

section

variable {a b c : Number}

/-- Numbers have the same value if they stand at the same place. -/
theorem equals_iff : a.equals b = true ↔ ∃ p, a.place? = some p ∧ b.place? = some p := by
  rw [equals, compare?, beq_iff_eq]
  cases a.place? with
  | none => simp
  | some p =>
    cases b.place? with
    | none => simp
    | some q => simp [Place.compare_eq_iff, @eq_comm _ q]

/-- One number is less than another if it stands at a place before it. -/
theorem less_iff : a.less b = true ↔ ∃ p q, a.place? = some p ∧ b.place? = some q ∧ p.compare q = .lt := by
  rw [less, compare?, beq_iff_eq]
  cases a.place? <;> cases b.place? <;> simp

theorem lessEqual_iff : a.lessEqual b = true ↔ a.less b = true ∨ a.equals b = true := by
  rw [lessEqual, Bool.or_eq_true]

/-- Times never go back. -/
def NeverBack (times : List Number) : Prop := times.Pairwise fun earlier later => earlier.lessEqual later = true

/-- The difference of two finite numbers, exactly. -/
def IsDifference (a b difference : Number) : Prop :=
  ∃ m n, a.place? = some (.units m) ∧ b.place? = some (.units n) ∧ difference.place? = some (.units (m - n))

/-- An exact difference is positive if the one number is less than the other. -/
theorem IsDifference.isPositive (h : IsDifference a b c) : c.isPositive = b.less a := by
  obtain ⟨m, n, ha, hb, hc⟩ := h
  show (int 0).less c = b.less a
  rw [Bool.eq_iff_iff, less_iff, less_iff]
  have hzero : (int 0).place? = some (.units 0) := by rw [place?, Int.zero_mul]
  have hcompare : (Place.units 0).compare (.units (m - n)) = .lt ↔ (Place.units n).compare (.units m) = .lt := by
    rw [Place.compare_units, Place.compare_units, Std.compare_eq_lt, Std.compare_eq_lt]
    omega
  constructor
  · rintro ⟨p, q, hp, hq, hlt⟩
    rw [hzero] at hp
    rw [hc] at hq
    cases hp
    cases hq
    exact ⟨_, _, hb, ha, hcompare.mp hlt⟩
  · rintro ⟨p, q, hp, hq, hlt⟩
    rw [hb] at hp
    rw [ha] at hq
    cases hp
    cases hq
    exact ⟨_, _, hzero, hc, hcompare.mpr hlt⟩

/-- Integers have exact differences. -/
theorem isDifference_int (m n : Int) : IsDifference (int m) (int n) (int (m - n)) :=
  ⟨_, _, rfl, rfl, by rw [place?, Int.sub_mul]⟩

/-- What is at most a number is less than what that number is less than. -/
theorem less_of_lessEqual_of_less (hab : a.lessEqual b = true) (hbc : b.less c = true) : a.less c = true := by
  obtain ⟨q, r, hb, hc, hqr⟩ := less_iff.mp hbc
  rcases lessEqual_iff.mp hab with hless | hequals
  · obtain ⟨p, q', ha, hb', hpq⟩ := less_iff.mp hless
    rw [hb] at hb'
    cases hb'
    exact less_iff.mpr ⟨p, r, ha, hc, Place.compare_lt_trans hpq hqr⟩
  · obtain ⟨p, ha, hb'⟩ := equals_iff.mp hequals
    rw [hb] at hb'
    cases hb'
    exact less_iff.mpr ⟨q, r, ha, hc, hqr⟩

end

/-- One integer is less than another as a number if it is as an integer. -/
theorem less_int {m n : Int} : (int m).less (int n) = true ↔ m < n := by
  rw [less, compare?_int, beq_iff_eq, Option.some.injEq]
  exact Std.compare_eq_lt

/-- An integer is a positive number if it is above zero. -/
theorem isPositive_int {n : Int} : (int n).isPositive = true ↔ 0 < n := less_int

/-- One integer is at most another as a number if it is as an integer. -/
theorem lessEqual_int {m n : Int} : (int m).lessEqual (int n) = true ↔ m ≤ n := by
  have hequals : (int m).equals (int n) = true ↔ m = n := by
    rw [equals, compare?_int, beq_iff_eq, Option.some.injEq]
    exact Std.compare_eq_iff_eq
  rw [lessEqual, Bool.or_eq_true, less_int, hequals]
  omega

/-- An integer is zero as a number if it is zero. -/
theorem isZero_int {n : Int} : (int n).isZero = true ↔ n = 0 := by
  rw [isZero, equals, compare?_int, beq_iff_eq, Option.some.injEq]
  exact Std.compare_eq_iff_eq

/-- The whole part of a positive number is not negative. -/
theorem truncate_nonneg {n : Number} (hn : n.isPositive = true) {whole : Int} (h : n.truncate = .ok whole) :
    0 ≤ whole := by
  cases n with
  | int k =>
    cases h
    exact Int.le_of_lt (isPositive_int.mp hn)
  | float x =>
    cases x with
    | finite negative units =>
      cases negative with
      | false =>
        cases h
        exact Int.natCast_nonneg _
      | true =>
        simp only [isPositive, less, compare?, place?, Place.compare, Int.zero_mul, if_true, beq_iff_eq,
          Option.some.injEq] at hn
        have hlt : (0 : Int) < -(units : Int) := Std.compare_eq_lt.mp hn
        omega
    | infinite negative => cases h
    | nan => cases h

end Number

end FrontPage
