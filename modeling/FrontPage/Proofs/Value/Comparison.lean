import FrontPage.Proofs.Number.Order
import FrontPage.Template.Condition
import FrontPage.Value.Order

/-!
# When comparing values is an order

Two values that both stand for numbers are compared as numbers and any others as texts, so that three values may be
compared under two rules. Turning a comparison round always turns its outcome round (`compareWith_swap`). Smaller or
equal values are not always in a chain: two numbers may be tangled with a text (`Value.Tangled`) that comes between
their texts, though they are the other way round as numbers, and nothing else ever breaks a chain
(`compareWith_trans_iff`). All this is about values other than the one number that stands nowhere.
-/

namespace FrontPage

/-! ## Numbers that stand somewhere -/

/-- The order of the number line is an order. -/
instance Place.transCmp_compare : Std.TransCmp Place.compare where
  eq_swap {p q} := by
    cases p with
    | units m =>
      cases q with
      | units n => exact @Std.OrientedCmp.eq_swap _ Ord.compare _ _ _
      | _ => rfl
    | _ => cases q <;> rfl
  isLE_trans {p q r} hpq hqr := by
    cases p with
    | units m =>
      cases q with
      | units n =>
        cases r with
        | units k => exact @Std.TransCmp.isLE_trans _ Ord.compare _ m n k hpq hqr
        | bottom => cases hqr
        | top => rfl
      | bottom => cases hpq
      | top => cases r with
        | top => rfl
        | _ => cases hqr
    | bottom => cases r <;> rfl
    | top => cases q with
      | top => exact hqr
      | _ => cases hpq

/-- What is not a number stands nowhere, and nothing else does. -/
theorem Number.exists_place {n : Number} (h : n ≠ .float .nan) : ∃ p, n.place? = some p := by
  cases n with
  | int k => exact ⟨_, rfl⟩
  | float x =>
    cases x with
    | finite negative units => exact ⟨_, rfl⟩
    | infinite negative => cases negative <;> exact ⟨_, rfl⟩
    | nan => exact absurd rfl h

theorem Binary64.ofUnits_ne_nan (negative : Bool) (units : Nat) : ofUnits negative units ≠ .nan := by
  rw [ofUnits]
  split <;> exact nofun

/-- A numeral stands for a number that stands somewhere. -/
theorem Numeral.value_ne_nan (n : Numeral) : n.value ≠ .float .nan := by
  have hnearest : n.nearest ≠ .nan := by
    rw [nearest, Binary64.ofDecimal]
    split
    · exact nofun
    · split
      · exact nofun
      · exact Binary64.ofUnits_ne_nan _ _
  rw [value]
  split
  · split
    · exact nofun
    · exact fun h => hnearest (Number.float.inj h)
  · exact fun h => hnearest (Number.float.inj h)

/-- Numbers that stand somewhere are compared by their places. -/
theorem Number.compareAny_of_places {m n : Number} {p q : Place} (hm : m.place? = some p) (hn : n.place? = some q) :
    m.compareAny n = p.compare q := by
  rw [compareAny, compare?, hm, hn]
  rfl

/-- A comparison says equal of numbers that have the same value; what is not a number has no value. -/
theorem Number.compareAny_eq_eq_iff {m n : Number} : m.compareAny n = .eq ↔ m.equals n = true := by
  rw [compareAny, equals, beq_iff_eq]
  cases m.compare? n with
  | none => constructor <;> intro h <;> cases h
  | some order => rw [Option.getD_some, Option.some.injEq]

/-! ## Texts -/

/-- Texts are ordered by their code points. -/
theorem Text.isLE_compare {s t : String} : (Ord.compare s t).isLE = true ↔ s ≤ t :=
  isLE_compareOfLessAndEq String.le_antisymm String.not_le String.le_total

namespace Value

variable {a b c : Value}

/-! ## The two rules -/

/-- The number of a value stands somewhere, unless the value is what is not a number. -/
theorem exists_place (hv : a ≠ .number (.float .nan)) {m : Number} (h : a.toNumber? = some m) :
    ∃ p, m.place? = some p := by
  refine Number.exists_place fun hnan => ?_
  rw [hnan] at h
  cases a with
  | number k =>
    rw [toNumber?_number] at h
    exact hv (congrArg number (Option.some.inj h))
  | text s =>
    obtain ⟨numeral, -, hvalue⟩ := Option.map_eq_some_iff.mp h
    exact numeral.value_ne_nan hvalue
  | _ => cases h

/-- Two values that stand for numbers are compared by the places of these. -/
theorem compareWith_of_numbers {m n : Number} {p q : Place} (ha : a.toNumber? = some m) (hb : b.toNumber? = some n)
    (hm : m.place? = some p) (hn : n.place? = some q) : a.compareWith b = p.compare q := by
  rw [compareWith, ha, hb]
  exact Number.compareAny_of_places hm hn

/-- Two values of which one stands for no number are compared by their texts. -/
theorem compareWith_of_texts (h : a.toNumber? = none ∨ b.toNumber? = none) :
    a.compareWith b = Ord.compare a.toTextOrEmpty b.toTextOrEmpty := by
  rw [compareWith]
  cases ha : a.toNumber? with
  | none => rfl
  | some m =>
    cases hb : b.toNumber? with
    | none => rfl
    | some n =>
      rw [ha, hb] at h
      rcases h with h | h <;> cases h

/-- Turning a comparison round turns its outcome round. -/
theorem compareWith_swap (ha : a ≠ .number (.float .nan)) (hb : b ≠ .number (.float .nan)) :
    a.compareWith b = (b.compareWith a).swap := by
  cases hm : a.toNumber? with
  | none =>
    rw [compareWith_of_texts (.inl hm), compareWith_of_texts (.inr hm)]
    exact @Std.OrientedCmp.eq_swap _ Ord.compare _ _ _
  | some m =>
    cases hn : b.toNumber? with
    | none =>
      rw [compareWith_of_texts (.inr hn), compareWith_of_texts (.inl hn)]
      exact @Std.OrientedCmp.eq_swap _ Ord.compare _ _ _
    | some n =>
      obtain ⟨p, hp⟩ := exists_place ha hm
      obtain ⟨q, hq⟩ := exists_place hb hn
      rw [compareWith_of_numbers hm hn hp hq, compareWith_of_numbers hn hm hq hp]
      exact Std.OrientedCmp.eq_swap

/-! ## Smaller and equal values -/

/-- The one value is smaller than the other: as a number if both stand for one, otherwise by the code points of the
texts. -/
inductive Below : Value → Value → Prop
  | numbers {a b : Value} {m n : Number} : a.toNumber? = some m → b.toNumber? = some n → m.less n = true → Below a b
  | texts {a b : Value} : a.toNumber? = none ∨ b.toNumber? = none → a.toTextOrEmpty < b.toTextOrEmpty → Below a b

/-- A comparison says smaller of smaller values. -/
theorem compareWith_eq_lt_iff (ha : a ≠ .number (.float .nan)) (hb : b ≠ .number (.float .nan)) :
    a.compareWith b = .lt ↔ a.Below b := by
  have htexts (h : a.toNumber? = none ∨ b.toNumber? = none) : a.compareWith b = .lt ↔ a.Below b := by
    rw [compareWith_of_texts h]
    refine compareOfLessAndEq_eq_lt.trans ⟨.texts h, fun hbelow => ?_⟩
    cases hbelow with
    | numbers hm hn _ =>
      rw [hm, hn] at h
      rcases h with h | h <;> cases h
    | texts _ hlt => exact hlt
  cases hm : a.toNumber? with
  | none => exact htexts (.inl hm)
  | some m =>
    cases hn : b.toNumber? with
    | none => exact htexts (.inr hn)
    | some n =>
      obtain ⟨p, hp⟩ := exists_place ha hm
      obtain ⟨q, hq⟩ := exists_place hb hn
      rw [compareWith_of_numbers hm hn hp hq]
      constructor
      · exact fun hlt => .numbers hm hn (Number.less_iff.mpr ⟨p, q, hp, hq, hlt⟩)
      · intro hbelow
        cases hbelow with
        | numbers hm' hn' hless =>
          rw [hm] at hm'
          rw [hn] at hn'
          cases hm'
          cases hn'
          obtain ⟨p', q', hp', hq', hlt⟩ := Number.less_iff.mp hless
          rw [hp] at hp'
          rw [hq] at hq'
          cases hp'
          cases hq'
          exact hlt
        | texts h _ =>
          rw [hm, hn] at h
          rcases h with h | h <;> cases h

/-- A comparison says equal of values that are equal as numbers if both stand for one, and otherwise as texts. -/
theorem compareWith_eq_eq_iff : a.compareWith b = .eq ↔ a.sameAs b = true := by
  rw [compareWith, sameAs]
  cases a.toNumber? with
  | none => rw [beq_iff_eq, Std.compare_eq_iff_eq]
  | some m =>
    cases b.toNumber? with
    | none => rw [beq_iff_eq, Std.compare_eq_iff_eq]
    | some n => exact Number.compareAny_eq_eq_iff

/-! ## Chains -/

/-- The texts of two numbers have the text of what is no number between them, while the numbers are the other way
round; both are strictly the other way round, or one of the two. -/
structure Tangled (x y between : Value) : Prop where
  upward : ∃ m n, x.toNumber? = some m ∧ y.toNumber? = some n ∧ m.lessEqual n = true ∧
    (m.less n = true ∨ y.toTextOrEmpty < x.toTextOrEmpty)
  noNumber : between.toNumber? = none
  downward : y.toTextOrEmpty ≤ between.toTextOrEmpty ∧ between.toTextOrEmpty ≤ x.toTextOrEmpty

/-- Numbers are in order if the one is less than the other or equal to it. -/
theorem isLE_of_numbers (ha : a ≠ .number (.float .nan)) (hb : b ≠ .number (.float .nan)) {m n : Number}
    (hm : a.toNumber? = some m) (hn : b.toNumber? = some n) :
    (a.compareWith b).isLE = true ↔ m.lessEqual n = true := by
  obtain ⟨p, hp⟩ := exists_place ha hm
  obtain ⟨q, hq⟩ := exists_place hb hn
  have hcompare : m.compare? n = some (p.compare q) := by rw [Number.compare?, hp, hq]
  rw [compareWith_of_numbers hm hn hp hq, Number.lessEqual, Number.less, Number.equals, hcompare]
  cases p.compare q <;> decide

/-- A value that stands for no number is in order with another by their texts. -/
theorem isLE_of_texts (h : a.toNumber? = none ∨ b.toNumber? = none) :
    (a.compareWith b).isLE = true ↔ a.toTextOrEmpty ≤ b.toTextOrEmpty := by
  rw [compareWith_of_texts h]
  exact Text.isLE_compare

/-- Where a chain breaks, the two numbers are tangled with the text that comes next to them in the chain. -/
theorem tangled_of_broken (ha : a ≠ .number (.float .nan)) (hb : b ≠ .number (.float .nan))
    (hc : c ≠ .number (.float .nan)) (hab : (a.compareWith b).isLE = true) (hbc : (b.compareWith c).isLE = true)
    (hca : c.Below a) : c.Tangled a b ∨ a.Tangled b c ∨ b.Tangled c a := by
  cases hca with
  | @numbers k m hk hm hless =>
    cases hn : b.toNumber? with
    | none =>
      have hle : k.lessEqual m = true := Number.lessEqual_iff.mpr (.inl hless)
      have hab' := (isLE_of_texts (.inr hn)).mp hab
      have hbc' := (isLE_of_texts (.inl hn)).mp hbc
      exact .inl ⟨⟨k, m, hk, hm, hle, .inl hless⟩, hn, hab', hbc'⟩
    | some n =>
      -- Three numbers form no circle.
      have hmn := (isLE_of_numbers ha hb hm hn).mp hab
      have hnk := (isLE_of_numbers hb hc hn hk).mp hbc
      have hself := Number.less_of_lessEqual_of_less hmn (Number.less_of_lessEqual_of_less hnk hless)
      obtain ⟨p, q, hp, hq, hlt⟩ := Number.less_iff.mp hself
      rw [hp] at hq
      cases hq
      exact absurd (hlt.symm.trans (Place.compare_eq_iff.mpr rfl)) nofun
  | texts hnone hlt =>
    rcases hnone with hnone | hnone
    · have hbc' := (isLE_of_texts (.inr hnone)).mp hbc
      have hba := Std.lt_of_le_of_lt hbc' hlt
      have htexts (h : a.toNumber? = none ∨ b.toNumber? = none) : False :=
        String.not_le.mpr hba ((isLE_of_texts h).mp hab)
      cases hm : a.toNumber? with
      | none => exact (htexts (.inl hm)).elim
      | some m =>
        cases hn : b.toNumber? with
        | none => exact (htexts (.inr hn)).elim
        | some n =>
          have hle := (isLE_of_numbers ha hb hm hn).mp hab
          exact .inr (.inl ⟨⟨m, n, hm, hn, hle, .inr hba⟩, hnone, hbc', Std.le_of_lt hlt⟩)
    · have hab' := (isLE_of_texts (.inl hnone)).mp hab
      have hcb := Std.lt_of_lt_of_le hlt hab'
      have htexts (h : b.toNumber? = none ∨ c.toNumber? = none) : False :=
        String.not_le.mpr hcb ((isLE_of_texts h).mp hbc)
      cases hn : b.toNumber? with
      | none => exact (htexts (.inl hn)).elim
      | some n =>
        cases hk : c.toNumber? with
        | none => exact (htexts (.inr hk)).elim
        | some k =>
          have hle := (isLE_of_numbers hb hc hn hk).mp hbc
          exact .inr (.inr ⟨⟨n, k, hn, hk, hle, .inr hcb⟩, hnone, Std.le_of_lt hlt, hab'⟩)

/-- **Chains of smaller or equal values break at tangled numbers, and nowhere else.** -/
theorem compareWith_trans_iff {values : Value → Prop} (hvalues : ∀ v, values v → v ≠ .number (.float .nan)) :
    (∀ a b c, values a → values b → values c → (a.compareWith b).isLE = true → (b.compareWith c).isLE = true →
        (a.compareWith c).isLE = true) ↔
      ∀ x y between, values x → values y → values between → ¬x.Tangled y between := by
  constructor
  · rintro htrans x y t hx hy ht ⟨⟨m, n, hm, hn, hle, hstrict⟩, hnone, hyt, htx⟩
    have hxy : (x.compareWith y).isLE = true := (isLE_of_numbers (hvalues x hx) (hvalues y hy) hm hn).mpr hle
    have hyt' : (y.compareWith t).isLE = true := (isLE_of_texts (.inr hnone)).mpr hyt
    have htx' : (t.compareWith x).isLE = true := (isLE_of_texts (.inl hnone)).mpr htx
    rcases hstrict with hless | htexts
    · have hlt := (compareWith_eq_lt_iff (hvalues x hx) (hvalues y hy)).mpr (.numbers hm hn hless)
      have hyx := htrans y t x hy ht hx hyt' htx'
      rw [compareWith_swap (hvalues y hy) (hvalues x hx), hlt] at hyx
      cases hyx
    · have hxt := (isLE_of_texts (.inr hnone)).mp (htrans x y t hx hy ht hxy hyt')
      have hty := (isLE_of_texts (.inl hnone)).mp (htrans t x y ht hx hy htx' hxy)
      exact String.not_le.mpr htexts (String.le_trans hxt hty)
  · intro huntangled a b c ha hb hc hab hbc
    cases hac : a.compareWith c with
    | gt =>
      have hca : c.compareWith a = .lt := by
        rw [compareWith_swap (hvalues c hc) (hvalues a ha), hac]
        rfl
      have hbelow := (compareWith_eq_lt_iff (hvalues c hc) (hvalues a ha)).mp hca
      rcases tangled_of_broken (hvalues a ha) (hvalues b hb) (hvalues c hc) hab hbc hbelow with h | h | h
      · exact absurd h (huntangled c a b hc ha hb)
      · exact absurd h (huntangled a b c ha hb hc)
      · exact absurd h (huntangled b c a hb hc ha)
    | _ => rfl

end Value

end FrontPage
