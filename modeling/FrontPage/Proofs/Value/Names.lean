import FrontPage.Cache
import FrontPage.Proofs.Number.Order

/-!
# Equal names

Values that can be looked up are the same name if they stand for the same number, for the same text, or both for
nothing (`Value.nameKey?`). So being the same name is symmetric and transitive; what is not a number is not even the
same name as itself.
-/

namespace FrontPage

namespace Value

/-- What a name stands for: a place on the number line, a text, or nothing. -/
def nameKey? : Value → Option (Place ⊕ Option String)
  | .null => some (.inr none)
  | .text s => some (.inr (some s))
  | .bool b => (Number.int (if b then 1 else 0)).place?.map .inl
  | .number n => n.place?.map .inl
  | .list _ => none
  | .record _ => none

/-- Numbers have the same value if they stand at the same place. -/
theorem nameKey?_numbers {m n : Number} :
    m.equals n = true ↔ ∃ key : Place ⊕ Option String, m.place?.map .inl = some key ∧ n.place?.map .inl = some key := by
  rw [Number.equals_iff]
  constructor
  · rintro ⟨place, hm, hn⟩
    exact ⟨.inl place, by rw [hm]; rfl, by rw [hn]; rfl⟩
  · rintro ⟨key, hm, hn⟩
    obtain ⟨place, hplace, rfl⟩ := Option.map_eq_some_iff.mp hm
    obtain ⟨other, hother, hsame⟩ := Option.map_eq_some_iff.mp hn
    cases hsame
    exact ⟨place, hplace, hother⟩

/-- Names are equal if they stand for the same. -/
theorem equals_iff_nameKey? {a b : Value} (ha : a.isName = true) (hb : b.isName = true) :
    a.equals b = true ↔ ∃ key, a.nameKey? = some key ∧ b.nameKey? = some key := by
  have hbools (p q : Bool) : (p == q) = true ↔
      (Number.int (if p then 1 else 0)).equals (.int (if q then 1 else 0)) = true := by
    cases p <;> cases q <;> decide +kernel
  cases a with
  | list => cases ha
  | record => cases ha
  | null => cases b <;> simp [equals, nameKey?]
  | text s => cases b <;> simp [equals, nameKey?, @eq_comm _ s]
  | number m =>
    cases b with
    | list => cases hb
    | record => cases hb
    | number n => exact nameKey?_numbers
    | bool q => exact nameKey?_numbers
    | null => simp [equals, nameKey?]
    | text => simp [equals, nameKey?]
  | bool p =>
    cases b with
    | list => cases hb
    | record => cases hb
    | number n => exact nameKey?_numbers
    | bool q => exact (hbools p q).trans nameKey?_numbers
    | null => simp [equals, nameKey?]
    | text => simp [equals, nameKey?]

end Value

/-- Being the same name is symmetric and transitive. -/
instance : PartialEquivBEq EntryName where
  symm {a b} h := by
    obtain ⟨key, ha, hb⟩ := (Value.equals_iff_nameKey? a.isName b.isName).mp h
    exact (Value.equals_iff_nameKey? b.isName a.isName).mpr ⟨key, hb, ha⟩
  trans {a b c} hab hbc := by
    obtain ⟨key, ha, hb⟩ := (Value.equals_iff_nameKey? a.isName b.isName).mp hab
    obtain ⟨other, hb', hc⟩ := (Value.equals_iff_nameKey? b.isName c.isName).mp hbc
    rw [hb] at hb'
    cases hb'
    exact (Value.equals_iff_nameKey? a.isName c.isName).mpr ⟨key, ha, hc⟩

end FrontPage
