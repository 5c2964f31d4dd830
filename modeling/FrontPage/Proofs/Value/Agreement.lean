import FrontPage.Proofs.Text.Trimming
import FrontPage.Proofs.Value.Exactness

/-!
# Conditions and sorts compare alike

A condition asks a question about two values, and a sort puts them in an order. What is equal is the same for both,
whatever the values are (`Operator.holds_equal_iff`). Of numbers, every operator holds as the order of sorts says
(`Operator.holds_of_numeric`), so that they are smaller, equal or larger and no two of these. Of anything else no
operator of order holds (`Operator.holds_of_not_numeric`), though a sort puts texts in an order too. A condition whose
operator is none of the comparisons asks if there is a value (`Value.isPresent_iff`).
-/

namespace FrontPage

/-! ## Numbers that stand nowhere -/

namespace Number

variable {m n : Number}

/-- What is not a number is not compared with anything. -/
theorem ne_nan_of_compare? {order : Ordering} (h : m.compare? n = some order) :
    m ≠ .float .nan ∧ n ≠ .float .nan := by
  constructor
  · rintro rfl
    cases h
  · rintro rfl
    rw [compare?] at h
    cases hm : m.place? <;> rw [hm] at h <;> cases h

theorem ne_nan_of_less (h : m.less n = true) : m ≠ .float .nan ∧ n ≠ .float .nan :=
  ne_nan_of_compare? (beq_iff_eq.mp h)

theorem ne_nan_of_lessEqual (h : m.lessEqual n = true) : m ≠ .float .nan ∧ n ≠ .float .nan := by
  rcases lessEqual_iff.mp h with hless | hequals
  · exact ne_nan_of_less hless
  · exact ne_nan_of_compare? (beq_iff_eq.mp hequals)

end Number

namespace Value

variable {a b : Value}

/-- The value stands for a number that stands somewhere on the number line. -/
def IsNumeric (a : Value) : Prop := ∃ n, a.toNumber? = some n ∧ n ≠ .float .nan

/-- There is a value: it stands for a number other than zero, or for no number, and then it holds and some character
of its text is no blank. -/
def IsThere (a : Value) : Prop :=
  (∃ n, a.toNumber? = some n ∧ n.equals (.int 0) = false) ∨
    a.toNumber? = none ∧ a.holds = true ∧ ∃ c ∈ a.toText.toList, Text.isBlank c = false

/-- A value passes the test without an operator if it is there. -/
theorem isPresent_iff : a.isPresent = true ↔ a.IsThere := by
  rw [isPresent, IsThere]
  cases a.toNumber? with
  | some n => simp [Number.isZero]
  | none => simp [Text.trim_eq_nil_iff]

/-- A relation of numbers that stand somewhere holds only of values that stand for such numbers. -/
theorem isNumeric_of_bothNumbers {relation : Number → Number → Bool}
    (hrelation : ∀ m n, relation m n = true → m ≠ .float .nan ∧ n ≠ .float .nan)
    (h : bothNumbers relation a b = true) : a.IsNumeric ∧ b.IsNumeric := by
  rw [bothNumbers] at h
  cases ha : a.toNumber? with
  | none =>
    rw [ha] at h
    cases h
  | some m =>
    cases hb : b.toNumber? with
    | none =>
      rw [ha, hb] at h
      cases h
    | some n =>
      rw [ha, hb] at h
      obtain ⟨hm, hn⟩ := hrelation m n h
      exact ⟨⟨m, ha, hm⟩, n, hb, hn⟩

end Value

namespace Operator

variable {a b : Value}

/-- What is equal for a condition is equal for a sort. -/
theorem holds_equal_iff : equal.holds a b = true ↔ a.compareWith b = .eq := Value.compareWith_eq_eq_iff.symm

/-- Numbers are compared by a condition as they are by a sort. -/
theorem holds_of_numeric (ha : a.IsNumeric) (hb : b.IsNumeric) (operator : Operator) :
    operator.holds a b = operator.accepts (a.compareWith b) := by
  obtain ⟨m, ha, hm⟩ := ha
  obtain ⟨n, hb, hn⟩ := hb
  obtain ⟨p, hp⟩ := Number.exists_place hm
  obtain ⟨q, hq⟩ := Number.exists_place hn
  rw [holds_of_places ha hb hp hq, Value.compareWith_of_numbers ha hb hp hq, Number.compareAny_of_places hp hq]

/-- No operator of order holds of two values unless both stand for numbers that stand somewhere. -/
theorem holds_of_not_numeric (h : ¬(a.IsNumeric ∧ b.IsNumeric)) {operator : Operator}
    (hne : operator ≠ .equal ∧ operator ≠ .unequal) : operator.holds a b = false := by
  rw [Bool.eq_false_iff]
  intro hholds
  cases operator with
  | equal => exact hne.1 rfl
  | unequal => exact hne.2 rfl
  | less => exact h (Value.isNumeric_of_bothNumbers (fun _ _ => Number.ne_nan_of_less) hholds)
  | greater => exact h (Value.isNumeric_of_bothNumbers (fun _ _ hless => (Number.ne_nan_of_less hless).symm) hholds)
  | lessEqual => exact h (Value.isNumeric_of_bothNumbers (fun _ _ => Number.ne_nan_of_lessEqual) hholds)
  | greaterEqual =>
    exact h (Value.isNumeric_of_bothNumbers (fun _ _ hle => (Number.ne_nan_of_lessEqual hle).symm) hholds)

end Operator

/-! ## Conditions -/

/-- What a test answers for each operator agrees with the order in which a sort puts the two values. -/
structure AgreesWithSort (test : Option String → Bool) (actual expected : Value) : Prop where
  equal : ∀ text ∈ ["=", "=="], test (some text) = true ↔ actual.compareWith expected = .eq
  unequal : ∀ text ∈ ["=", "=="], test (some "!=") = !test (some text)
  greater : actual.IsNumeric → expected.IsNumeric → (test (some ">") = true ↔ actual.compareWith expected = .gt)
  less : actual.IsNumeric → expected.IsNumeric → (test (some "<") = true ↔ actual.compareWith expected = .lt)
  greaterEqual : actual.IsNumeric → expected.IsNumeric →
    (test (some ">=") = true ↔ test (some ">") = true ∨ test (some "=") = true)
  lessEqual : actual.IsNumeric → expected.IsNumeric →
    (test (some "<=") = true ↔ test (some "<") = true ∨ test (some "=") = true)
  /-- Exactly one of these operators holds of two numbers. -/
  one : actual.IsNumeric → expected.IsNumeric → ["<", "=", ">"].countP (fun text => test (some text)) = 1
  /-- No operator of order holds of values that are not both numbers, be their texts equal or not. -/
  unordered : ¬(actual.IsNumeric ∧ expected.IsNumeric) → ∀ text ∈ ["<", ">", "<=", ">="], test (some text) = false
  /-- Any other operator is as good as none. -/
  unknown : ∀ operator, (∀ text ∈ operator, text ∉ Operator.texts) → test operator = test none
  present : test none = true ↔ actual.IsThere

section

variable {record : Record} {field : String} {expected : Value}

/-- A condition with one of the operators holds if the operator does. -/
theorem conditionHolds_operator {text : String} {operator : Operator} (h : Operator.ofText? text = some operator) :
    conditionHolds record field (some text) expected = operator.holds (Record.get record field) expected := by
  rw [conditionHolds, Value.passes, Option.bind_some, h]

/-- A condition with another text in the place of the operator, or with none, asks if there is a value. -/
theorem conditionHolds_unknown {operator : Option String} (h : ∀ text ∈ operator, text ∉ Operator.texts) :
    conditionHolds record field operator expected = (Record.get record field).isPresent := by
  have hnone : operator.bind Operator.ofText? = none := by
    rw [Option.bind_eq_none_iff]
    intro text htext
    cases hoperator : Operator.ofText? text with
    | none => rfl
    | some operator => exact absurd (Operator.mem_texts hoperator) (h text htext)
  rw [conditionHolds, Value.passes, hnone]

/-- Of numbers, a condition holds as its operator does of the order of a sort. -/
theorem conditionHolds_numeric (hactual : (Record.get record field).IsNumeric) (hexpected : expected.IsNumeric)
    {text : String} {operator : Operator} (h : Operator.ofText? text = some operator) :
    conditionHolds record field (some text) expected =
      operator.accepts ((Record.get record field).compareWith expected) := by
  rw [conditionHolds_operator h, Operator.holds_of_numeric hactual hexpected]

end

/-- **Conditions and sorts compare alike.** Equality is the same for both, the order of numbers is, and nothing else has
an order for a condition; an operator that is none of the comparisons asks if there is a value. -/
theorem conditionHolds_agreesWithSort (record : Record) (field : String) (expected : Option String) :
    AgreesWithSort (fun operator => conditionHolds record field operator (.ofText? expected))
      (Record.get record field) (.ofText? expected) := by
  have hequal : ∀ text ∈ ["=", "=="], Operator.ofText? text = some .equal := by decide
  have hgreater : Operator.ofText? ">" = some .greater := rfl
  have hless : Operator.ofText? "<" = some .less := rfl
  have hgreaterEqual : Operator.ofText? ">=" = some .greaterEqual := rfl
  have hlessEqual : Operator.ofText? "<=" = some .lessEqual := rfl
  have hsame : Operator.ofText? "=" = some .equal := rfl
  have hnone : ∀ text ∈ (none : Option String), text ∉ Operator.texts := fun _ htext => nomatch htext
  constructor
  case equal =>
    intro text htext
    rw [conditionHolds_operator (hequal text htext)]
    exact Operator.holds_equal_iff
  case unequal =>
    intro text htext
    rw [conditionHolds_operator (hequal text htext)]
    rfl
  case greater =>
    intro hactual hexpected
    rw [conditionHolds_numeric hactual hexpected hgreater, Operator.accepts, beq_iff_eq]
  case less =>
    intro hactual hexpected
    rw [conditionHolds_numeric hactual hexpected hless, Operator.accepts, beq_iff_eq]
  case greaterEqual =>
    intro hactual hexpected
    rw [conditionHolds_numeric hactual hexpected hgreaterEqual, conditionHolds_numeric hactual hexpected hgreater,
      conditionHolds_numeric hactual hexpected hsame]
    cases (Record.get record field).compareWith _ <;> decide
  case lessEqual =>
    intro hactual hexpected
    rw [conditionHolds_numeric hactual hexpected hlessEqual, conditionHolds_numeric hactual hexpected hless,
      conditionHolds_numeric hactual hexpected hsame]
    cases (Record.get record field).compareWith _ <;> decide
  case one =>
    intro hactual hexpected
    rw [List.countP_cons, List.countP_cons, List.countP_cons, conditionHolds_numeric hactual hexpected hless,
      conditionHolds_numeric hactual hexpected hsame, conditionHolds_numeric hactual hexpected hgreater]
    cases (Record.get record field).compareWith _ <;> rfl
  case unordered =>
    intro hnumeric text htext
    simp only [List.mem_cons, List.not_mem_nil, or_false] at htext
    rcases htext with rfl | rfl | rfl | rfl
    · rw [conditionHolds_operator hless, Operator.holds_of_not_numeric hnumeric (by decide)]
    · rw [conditionHolds_operator hgreater, Operator.holds_of_not_numeric hnumeric (by decide)]
    · rw [conditionHolds_operator hlessEqual, Operator.holds_of_not_numeric hnumeric (by decide)]
    · rw [conditionHolds_operator hgreaterEqual, Operator.holds_of_not_numeric hnumeric (by decide)]
  case unknown =>
    intro operator hoperator
    rw [conditionHolds_unknown hoperator, conditionHolds_unknown hnone]
  case present =>
    rw [conditionHolds_unknown hnone]
    exact Value.isPresent_iff

/-- The numbers nine and ten are in their order and no other, though their texts are the other way round. A text is
equal to itself and yet not larger or equal. -/
theorem conditionHolds_agreesWithSort_shelf :
    let record := [("price", Value.int 9), ("shelf", .text "b")]
    ((Value.int 9).IsNumeric ∧ (Value.text "10").IsNumeric ∧
        conditionHolds record "price" (some "<") (.text "10") = true) ∧
      (¬((Value.text "b").IsNumeric ∧ (Value.text "b").IsNumeric) ∧
        conditionHolds record "shelf" (some "=") (.text "b") = true ∧
        conditionHolds record "shelf" (some ">=") (.text "b") = false) := by
  intro record
  have hnine : (Value.int 9).IsNumeric := ⟨.int 9, rfl, nofun⟩
  have hten : (Value.text "10").IsNumeric := ⟨.int 10, by decide +kernel, nofun⟩
  have htext : ¬((Value.text "b").IsNumeric ∧ (Value.text "b").IsNumeric) := by
    rintro ⟨⟨n, hn, -⟩, -⟩
    have hnone : (Value.text "b").toNumber? = none := by decide +kernel
    rw [hnone] at hn
    cases hn
  have hprice := conditionHolds_agreesWithSort record "price" (some "10")
  have hshelf := conditionHolds_agreesWithSort record "shelf" (some "b")
  exact ⟨⟨hnine, hten, (hprice.less hnine hten).mpr (by decide +kernel)⟩, htext,
    (hshelf.equal "=" (by decide)).mpr (by decide +kernel), hshelf.unordered htext ">=" (by decide)⟩

end FrontPage
