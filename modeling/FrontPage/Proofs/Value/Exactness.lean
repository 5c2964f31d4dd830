import FrontPage.Proofs.Clause.Grammar
import FrontPage.Proofs.Template.Evaluation
import FrontPage.Proofs.Value.Comparison
import FrontPage.Proofs.Value.Integers

/-!
# Comparing integers with their texts

A clause, a condition of a template and a sort compare a field that is an integer with the text of an integer. All
three compare the field with the number nearest to what is written (`comparesAs_nearestInt`). So they compare the
integers themselves if the one that is written is in the binary64 format, and only then (`integers_compared`).
-/

namespace FrontPage

open FrontPage.Text

/-! ## Operators -/

/-- The operator holds of two numbers that are in an order. -/
def Operator.accepts : Operator → Ordering → Bool
  | .equal, order => order == .eq
  | .unequal, order => order != .eq
  | .less, order => order == .lt
  | .greater, order => order == .gt
  | .lessEqual, order => order != .gt
  | .greaterEqual, order => order != .lt

/-- An operator holds of two values that stand for numbers as it does of the order of these. -/
theorem Operator.holds_of_places {a b : Value} {m n : Number} {p q : Place} (ha : a.toNumber? = some m)
    (hb : b.toNumber? = some n) (hm : m.place? = some p) (hn : n.place? = some q) (operator : Operator) :
    operator.holds a b = operator.accepts (m.compareAny n) := by
  have hmn : m.compare? n = some (p.compare q) := by rw [Number.compare?, hm, hn]
  have hnm : n.compare? m = some (p.compare q).swap := by
    rw [Number.compare?, hm, hn, ← Std.OrientedCmp.eq_swap]
  rw [Number.compareAny_of_places hm hn]
  cases operator <;>
    simp only [holds, accepts, Value.sameAs, Value.bothNumbers, ha, hb, Number.equals, Number.less, Number.lessEqual,
      hmn, hnm] <;>
    cases p.compare q <;> rfl

/-- The texts of the operators. -/
def Operator.texts : List String := ["=", "==", "!=", "<", ">", "<=", ">="]

theorem Operator.mem_texts {text : String} {operator : Operator} (h : ofText? text = some operator) :
    text ∈ texts := by
  grind [ofText?, texts]

/-- They are of one or two characters of operators. -/
theorem Operator.chars_of_mem_texts {text : String} (h : text ∈ texts) :
    text.toList ≠ [] ∧ text.toList.length ≤ 2 ∧ ∀ c ∈ text.toList, Condition.isOperatorChar c = true := by
  simp only [texts, List.mem_cons, List.not_mem_nil, or_false] at h
  rcases h with rfl | rfl | rfl | rfl | rfl | rfl | rfl <;>
    exact ⟨by decide, by decide, List.all_eq_true.mp (by decide)⟩

/-! ## Names -/

/-- The text is a name of ASCII: a letter with letters, digits and underscores behind it. -/
def IsAsciiName (field : List Char) : Prop :=
  ∃ first rest, field = first :: rest ∧ first.isAlpha = true ∧ ∀ c ∈ rest, (c.isAlphanum || c == '_') = true

/-- Letters and digits of ASCII are word characters. -/
theorem Text.isWordChar_of_ascii {c : Char} (h : (c.isAlphanum || c == '_') = true) : isWordChar c = true := by
  rcases (Bool.or_eq_true ..).mp h with halphanum | hunderscore
  · have hascii : c.toNat < 128 := by
      -- The largest codes are those of the last letter of either case and of the last digit.
      rcases (Bool.or_eq_true ..).mp halphanum with halpha | hdigit
      · rcases (Bool.or_eq_true ..).mp halpha with hupper | hlower
        · have hle : c.toNat ≤ 90 := UInt32.le_iff_toNat_le.mp (of_decide_eq_true hupper).2
          omega
        · have hle : c.toNat ≤ 122 := UInt32.le_iff_toNat_le.mp (of_decide_eq_true ((Bool.and_eq_true ..).mp hlower).2)
          omega
      · have hle : c.toNat ≤ 57 := UInt32.le_iff_toNat_le.mp (of_decide_eq_true ((Bool.and_eq_true ..).mp hdigit).2)
        omega
    exact isWordChar_of_isAlphanum halphanum hascii
  · rw [beq_iff_eq.mp hunderscore]
    decide

section

variable {field : List Char}

theorem IsAsciiName.isWordChar (h : IsAsciiName field) : ∀ c ∈ field, isWordChar c = true := by
  obtain ⟨first, rest, rfl, hfirst, hrest⟩ := h
  refine List.forall_mem_cons.mpr ⟨isWordChar_of_ascii ?_, fun c hc => isWordChar_of_ascii (hrest c hc)⟩
  rw [Char.isAlphanum, hfirst]
  rfl

theorem IsAsciiName.ne_nil (h : IsAsciiName field) : field ≠ [] := by
  obtain ⟨first, rest, rfl, -⟩ := h
  exact List.cons_ne_nil _ _

/-- A name is no digit. -/
theorem IsAsciiName.ne_digit (h : IsAsciiName field) : field ≠ ['1'] ∧ field ≠ ['0'] := by
  obtain ⟨first, rest, rfl, hfirst, -⟩ := h
  constructor
  · intro he
    rw [(List.cons.inj he).1] at hfirst
    exact absurd hfirst (by decide)
  · intro he
    rw [(List.cons.inj he).1] at hfirst
    exact absurd hfirst (by decide)

end

/-- The text of an integer is made of characters that values of conditions have. -/
theorem isValueChar_int (n : Int) : ∀ c ∈ (toString n).toList, Condition.isValueChar c = true := by
  intro c hc
  rw [toList_toString_int] at hc
  rcases List.mem_append.mp hc with hsign | hdigit
  · rw [signChars] at hsign
    split at hsign
    · rw [List.mem_singleton.mp hsign]
      decide
    · cases hsign
  · have hc := Nat.isDigit_of_mem_toDigits (by decide) (by decide) hdigit
    rw [Condition.isValueChar, isWordChar_of_ascii (by rw [Char.isAlphanum, hc, Bool.or_true, Bool.true_or])]
    rfl

/-! ## Comparisons -/

/-- The text of a clause that compares a field with an integer. -/
def equationText (field : List Char) (n : Int) : List Char := Clause.equation field [' '] [' '] (toString n).toList

/-- The text of a conditional whose only tag compares a field with an integer. -/
def conditionalText (field operator : List Char) (n : Int) (content : List Char) : List Char :=
  braced (['I', 'f'] ++ ([' '] ++ (field ++ ([' '] ++ (operator ++ ([' '] ++ (toString n).toList)))))) ++ content ++
    braced ['E', 'n', 'd', 'I', 'f']

/-- The comparisons of a field of a record with the text of an integer come out as an order says: a clause selects the
record if they are equal, unless the name of the field is taken for the word WHERE, a conditional shows its content if
its operator holds of the order, and a sort takes them to be in the order. -/
structure ComparesAs (field : List Char) (n : Int) (record : Record) (order : Ordering) : Prop where
  selects : Clause.selects (.text (String.ofList (equationText field n))) record = true ↔
    order = .eq ∧ ¬Spells "where".toList field
  shows : ∀ text operator, Operator.ofText? text = some operator → ∀ content, '{' ∉ content →
    (resolveBlock record (conditionalText field text.toList n content)).text =
      if operator.accepts order then content else []
  sorts : (Record.get record (String.ofList field)).compareWith (.text (toString n)) = order

/-- The test of a field against an integer. -/
def Tree.integerTest {field : List Char} (hfield : IsAsciiName field) {text : String} (htext : text ∈ Operator.texts)
    (n : Int) : Tree.Test where
  condition := ⟨String.ofList field, some (text, toString n)⟩
  field_ne_nil := by
    rw [String.toList_ofList]
    exact hfield.ne_nil
  isWordChar_of_mem := by
    rw [String.toList_ofList]
    exact hfield.isWordChar
  operator_ne_nil := by
    rintro _ ⟨⟩
    exact (Operator.chars_of_mem_texts htext).1
  operator_length_le := by
    rintro _ ⟨⟩
    exact (Operator.chars_of_mem_texts htext).2.1
  isOperatorChar_of_mem := by
    rintro _ ⟨⟩
    exact (Operator.chars_of_mem_texts htext).2.2
  value_ne_nil := by
    rintro _ ⟨⟩
    exact (writesDecimal_int n).ne_nil
  isValueChar_of_mem := by
    rintro _ ⟨⟩
    exact isValueChar_int n

section

variable {field : List Char} {m n : Int} {record : Record}

/-- A nearest number stands somewhere. -/
theorem Number.exists_place_nearestInt (n : Int) : ∃ p, (Number.nearestInt n).place? = some p := by
  refine Number.exists_place fun hnan => ?_
  rw [Number.nearestInt] at hnan
  split at hnan <;> cases hnan

theorem Number.compareAny_int (m n : Int) : (Number.int m).compareAny (.int n) = compare m n := by
  rw [compareAny, compare?_int]
  rfl

/-- Only an integer of the format is equal to the number nearest to it. -/
theorem Number.compareAny_nearestInt_eq_iff :
    (Number.int n).compareAny (.nearestInt n) = .eq ↔ Binary64.HasInt n := by
  rw [← nearestInt_eq_self_iff, nearestInt]
  split
  · rw [compareAny_int, Std.compare_eq_iff_eq, Number.int.injEq, eq_comm]
  · constructor
    · intro h
      cases hsign : decide (n < 0) <;> rw [hsign] at h <;> cases h
    · intro h
      cases h

/-- A comparison of an integer with the text of an integer is one with the nearest number. -/
theorem Operator.holds_int (operator : Operator) (m n : Int) :
    operator.holds (.int m) (.text (toString n)) = operator.accepts ((Number.int m).compareAny (.nearestInt n)) := by
  obtain ⟨p, hp⟩ := Number.exists_place_nearestInt n
  exact operator.holds_of_places rfl (Value.toNumber?_text_int n) rfl hp

/-- An equation of a field with an integer is a clause, unless the name of the field is taken for the word WHERE. -/
theorem read?_equationText (hfield : IsAsciiName field) (hwhere : ¬Spells "where".toList field) (n : Int) :
    Clause.read? (String.ofList (equationText field n)) =
      some (.equals (String.ofList field) (.number (toString n))) := by
  have hblank : Tree.Blanks [' '] := by decide
  have hright : Literal.Writes (.number (toString n)) (toString n).toList := by
    have hnumber := Literal.Writes.number (writesDecimal_int n)
    rwa [String.ofList_toList] at hnumber
  have hwrites : (Clause.equals (String.ofList field) (.number (toString n))).Writes (equationText field n) :=
    .equals hfield.ne_nil hfield.isWordChar hblank hblank hright fun _ => hfield.ne_digit
  have hopens : ¬Clause.OpensWithWhere (equationText field n) :=
    Clause.not_opensWithWhere_equation hfield.isWordChar hwhere hblank
  have hwritten := @Clause.Writes.written _ _ [] [] [] hwrites hopens nofun .nothing nofun
  rw [List.nil_append, List.nil_append, List.append_nil, ← String.toList_ofList (l := equationText field n)] at hwritten
  exact Clause.read?_eq_some_iff.mpr hwritten

/-- If it is, no field is left to compare. -/
theorem read?_equationText_where (hwhere : Spells "where".toList field) (n : Int) :
    Clause.read? (String.ofList (equationText field n)) = none := by
  have hblank : Tree.Blanks [' '] := by decide
  have hnone : Tree.Blanks [] := by decide
  have hdecimal := writesDecimal_int n
  have hleft : Firm (Clause.equation [] [] [' '] (toString n).toList) := by
    obtain ⟨before, d, hlast, hd⟩ := hdecimal.exists_ends.2
    have hequation : Clause.equation [] [] [' '] (toString n).toList = '=' :: ' ' :: before ++ [d] :=
      congrArg ('=' :: ' ' :: ·) hlast
    exact firm_of_ends rfl (by decide) hequation (isBlank_of_isDecimalDigit hd)
  have htext : equationText field n =
    [] ++ (field ++ ([' '] ++ Clause.equation [] [] [' '] (toString n).toList)) := rfl
  rw [Clause.read?_eq, String.toList_ofList, htext,
    Clause.withoutWhere_append hnone hwhere hblank (List.cons_ne_nil _ _) hleft.1, hleft.trim_eq,
    Clause.readBody?_equation (List.forall_mem_nil _) hnone hblank hdecimal.firm.1]
  rfl

/-- A clause selects a record if its field is equal to the nearest number. -/
theorem selects_equationText (hfield : IsAsciiName field) (hget : Record.get record (String.ofList field) = .int m) :
    Clause.selects (.text (String.ofList (equationText field n))) record = true ↔
      (Number.int m).compareAny (.nearestInt n) = .eq ∧ ¬Spells "where".toList field := by
  by_cases hwhere : Spells "where".toList field
  · rw [Clause.selects, read?_equationText_where hwhere]
    exact ⟨fun h => absurd h Bool.false_ne_true, fun h => absurd hwhere h.2⟩
  · have hequal : Clause.holds record (.equals (String.ofList field) (.number (toString n))) =
        Operator.equal.holds (.int m) (.text (toString n)) := by
      rw [Clause.holds, hget, Clause.matchesLiteral, Operator.holds, Value.sameAs, Value.toNumber?_text_int,
        textNumber?_int, Value.toNumber?_number]
    rw [Clause.selects, read?_equationText hfield hwhere, Option.map_some, Option.getD_some, hequal,
      Operator.holds_int, Operator.accepts, beq_iff_eq]
    exact ⟨fun h => ⟨h, hwhere⟩, And.left⟩

/-- A conditional with one branch shows its content if its condition holds. -/
theorem Tree.resolveBlock_single (record : Record) (test : Tree.Test) {tag spelled content : List Char}
    (htag : WritesTag ['i', 'f'] test.condition tag) (hspelled : Spells ['e', 'n', 'd', 'i', 'f'] spelled)
    (hcontent : '{' ∉ content) :
    (resolveBlock record (tag ++ content ++ braced spelled)).text =
      if test.condition.holds record then content else [] := by
  let choice : Choice := ⟨⟨test, [.text ⟨content, hcontent⟩]⟩, [], none⟩
  have hwritten : written choice.first.contents = content := List.append_nil content
  have hresolved := @resolveBlock_conditional record choice tag [] spelled htag .none hspelled []
  rw [hwritten, List.append_nil, List.append_nil, ← List.append_assoc] at hresolved
  rw [hresolved]
  show written (select record none [choice.first]).1 ++ [] = _
  rw [List.append_nil, select]
  split
  · exact hwritten
  · rfl

/-- A conditional shows its content if its operator holds of the field and the nearest number. -/
theorem resolveBlock_conditionalText (hfield : IsAsciiName field)
    (hget : Record.get record (String.ofList field) = .int m) {text : String} {operator : Operator}
    (htext : Operator.ofText? text = some operator) {content : List Char} (hcontent : '{' ∉ content) :
    (resolveBlock record (conditionalText field text.toList n content)).text =
      if operator.accepts ((Number.int m).compareAny (.nearestInt n)) then content else [] := by
  let test := Tree.integerTest hfield (Operator.mem_texts htext) n
  have htag := @Tree.WritesTag.tag ['i', 'f'] test.condition ['I', 'f'] [' '] _ (by decide) (by decide) (by decide)
    (@Tree.WritesCondition.compared (String.ofList field) text (toString n) [' '] [' '] (by decide) (by decide))
  have hholds : test.condition.holds record = operator.accepts ((Number.int m).compareAny (.nearestInt n)) := by
    rw [← Operator.holds_int, ← hget]
    show (Record.get record (String.ofList field)).passes (some text) (.text (toString n)) = _
    rw [Value.passes, Option.bind_some, htext]
  rw [String.toList_ofList] at htag
  rw [conditionalText, Tree.resolveBlock_single record test htag (by decide) hcontent, hholds]

/-- An integer is compared with the text of an integer as with the number nearest to that. -/
theorem comparesAs_nearestInt (hfield : IsAsciiName field)
    (hget : Record.get record (String.ofList field) = .int m) :
    ComparesAs field n record ((Number.int m).compareAny (.nearestInt n)) where
  selects := selects_equationText hfield hget
  shows _ _ htext _ hcontent := resolveBlock_conditionalText hfield hget htext hcontent
  sorts := by
    obtain ⟨p, hp⟩ := Number.exists_place_nearestInt n
    rw [hget, Value.compareWith_of_numbers rfl (Value.toNumber?_text_int n) rfl hp, Number.compareAny_of_places rfl hp]

/-- **Integers are compared exactly if the one that is written is in the binary64 format, and only then.** In every case
the field is compared with the number nearest to the one that is written. -/
theorem integers_compared (hfield : IsAsciiName field) (n : Int) :
    (∀ (m : Int) (record : Record), Record.get record (String.ofList field) = .int m →
        ComparesAs field n record ((Number.int m).compareAny (.nearestInt n))) ∧
      ((∀ (m : Int) (record : Record), Record.get record (String.ofList field) = .int m →
        ComparesAs field n record (compare m n)) ↔ Binary64.HasInt n) := by
  refine ⟨fun m record hget => comparesAs_nearestInt hfield hget, fun h => ?_, fun hn m record hget => ?_⟩
  · -- The integer itself, in a field, is equal to what is written.
    have hget : Record.get [(String.ofList field, .int n)] (String.ofList field) = .int n := by
      rw [Record.get, Record.get?, List.lookup_cons_self]
      rfl
    have hself := (comparesAs_nearestInt hfield hget).sorts.symm.trans (h n _ hget).sorts
    rw [Std.compare_self] at hself
    exact Number.compareAny_nearestInt_eq_iff.mp hself
  · have hnearest := comparesAs_nearestInt (n := n) hfield hget
    rwa [Number.nearestInt_eq_self_iff.mpr hn, Number.compareAny_int] at hnearest

end

/-- A stock of forty-two, and one of forty-one, compared with the text of the one. -/
theorem integers_compared_stock :
    IsAsciiName "stock".toList ∧ Binary64.HasInt 42 ∧ ComparesAs "stock".toList 42 [("stock", .int 42)] .eq ∧
      ComparesAs "stock".toList 42 [("stock", .int 41)] .lt := by
  have hname : IsAsciiName "stock".toList :=
    ⟨'s', ['t', 'o', 'c', 'k'], by decide, by decide, List.all_eq_true.mp (by decide)⟩
  have hformat : Binary64.HasInt 42 := ⟨by decide +kernel, 42, 0, by decide, rfl⟩
  have hexact := (integers_compared hname 42).2.mpr hformat
  rw [String.ofList_toList] at hexact
  exact ⟨hname, hformat, hexact 42 _ rfl, hexact 41 _ rfl⟩

/-- **An integer of 54 significant bits is not equal to its own text**, and the integer below it is equal to that. -/
theorem integers_confused :
    Clause.selects (.text "stock = 9007199254740993") [("stock", .int 9007199254740993)] = false ∧
      Clause.selects (.text "stock = 9007199254740993") [("stock", .int 9007199254740992)] = true ∧
      (resolveBlock [("stock", .int 9007199254740992)]
        (conditionalText "stock".toList "=".toList 9007199254740993 ['x'])).text = ['x'] ∧
      (resolveBlock [("stock", .int 9007199254740993)]
        (conditionalText "stock".toList ">".toList 9007199254740993 ['x'])).text = ['x'] ∧
      (Value.int 9007199254740993).compareWith (.text "9007199254740993") = .gt := by
  decide +kernel

end FrontPage
