import FrontPage.Proofs.Template.Syntax
import FrontPage.Proofs.Value.Decimals

/-!
# The grammar of clauses

`Clause.Written` relates a clause to every text that writes it: `1=1`, `0=1` or a field that equals a literal, with
blanks around the equals sign and around the whole, and the word WHERE in front or not. Clauses are read off exactly
these texts (`read?_eq_some_iff`), so that no text writes two of them. A clause that is written selects the records
that meet it (`Clause.IsMet`), and a value that writes none selects nothing (`selects_written`).
-/

namespace FrontPage

open FrontPage.Text
open FrontPage.Tree (Blanks)

/-! ## Written forms -/

/-- The texts that write a literal: a text in quotes that are not in it, or a decimal number. -/
inductive Literal.Writes : Literal → List Char → Prop
  | single {content : List Char} : '\'' ∉ content →
      Writes (.text (String.ofList content)) ('\'' :: (content ++ ['\'']))
  | double {content : List Char} : '"' ∉ content → Writes (.text (String.ofList content)) ('"' :: (content ++ ['"']))
  | number {text : List Char} : WritesDecimal text → Writes (.number (String.ofList text)) text

namespace Clause

/-- The two sides of an equation with blanks around the equals sign. -/
def equation (left before behind right : List Char) : List Char := left ++ (before ++ '=' :: (behind ++ right))

/-- The texts that write a clause with nothing around it. The equations of numbers that say yes or no are no
comparisons of fields with these names. -/
inductive Writes : Clause → List Char → Prop
  | always {before behind : List Char} : Blanks before → Blanks behind →
      Writes always (equation ['1'] before behind ['1'])
  | never {before behind : List Char} : Blanks before → Blanks behind →
      Writes never (equation ['0'] before behind ['1'])
  | equals {field before behind right : List Char} {literal : Literal} : field ≠ [] →
      (∀ c ∈ field, isWordChar c = true) → Blanks before → Blanks behind → literal.Writes right →
      (right = ['1'] → field ≠ ['1'] ∧ field ≠ ['0']) →
      Writes (equals (String.ofList field) literal) (equation field before behind right)

/-- The text begins with the word WHERE, in any letter case, and a blank. -/
def OpensWithWhere (text : List Char) : Prop :=
  ∃ word blank rest, Spells "where".toList word ∧ isBlank blank = true ∧ text = word ++ blank :: rest

/-- The texts that write a clause, with blanks around it, and behind the word WHERE or without it. -/
inductive Written : Clause → List Char → Prop
  | bare {clause : Clause} {lead body trail : List Char} : Blanks lead → Blanks trail → clause.Writes body →
      ¬OpensWithWhere body → Written clause (lead ++ (body ++ trail))
  | behindWhere {clause : Clause} {lead word gap body trail : List Char} : Blanks lead → Spells "where".toList word →
      Blanks gap → gap ≠ [] → Blanks trail → clause.Writes body →
      Written clause (lead ++ (word ++ (gap ++ (body ++ trail))))

/-- What may stand in front of a clause: nothing, or the word WHERE and blanks behind it. -/
inductive IsFront : List Char → Prop
  | nothing : IsFront []
  | word {word gap : List Char} : Spells "where".toList word → Blanks gap → gap ≠ [] → IsFront (word ++ gap)

/-- What a record must be for a clause to select it. -/
def IsMet (record : Record) : Clause → Prop
  | always => True
  | never => False
  | equals field (.text s) => (Record.get record field).toTextOrEmpty = s
  | equals field (.number numeral) => ∃ m n, (Record.get record field).toNumber? = some m ∧
      textNumber? numeral = some n ∧ m.equals n = true

end Clause

namespace Clause

/-! ## Literals -/

/-- The text between quotes is all but the quotes. -/
theorem quoted?_eq_some_iff {text content : List Char} :
    quoted? text = some content ↔
      ∃ mark, (mark = '\'' ∨ mark = '"') ∧ mark ∉ content ∧ text = mark :: (content ++ [mark]) := by
  constructor
  · intro h
    cases text with
    | nil => cases h
    | cons mark rest =>
      rw [quoted?] at h
      split at h
      case isFalse => cases h
      case isTrue hmark =>
      split at h
      case h_2 => cases h
      case h_1 closing hdrop =>
      have hcontent : rest.takeWhile (· ≠ mark) = content := Option.some.inj h
      have hclosing : closing = mark := by
        have hstop := stops_dropWhile (fun c => decide (c ≠ mark)) rest
        rw [hdrop] at hstop
        simpa using hstop closing rfl
      refine ⟨mark, by simpa using hmark, fun hm => ?_, ?_⟩
      · rw [← hcontent] at hm
        simpa using List.mem_takeWhile_imp hm
      · rw [← hcontent, ← hclosing, ← hdrop, hclosing, List.takeWhile_append_dropWhile]
  · rintro ⟨mark, hmark, hnot, rfl⟩
    have hrun : ∀ c ∈ content, decide (c ≠ mark) = true := by
      intro c hc
      simpa using fun e : c = mark => hnot (e ▸ hc)
    have hstop : Stops (fun c => decide (c ≠ mark)) [mark] := stops_cons (by simp)
    rw [quoted?, if_pos (by simpa using hmark), dropWhile_run hrun hstop, takeWhile_run hrun hstop]

/-- A decimal number is in no quotes. -/
theorem quoted?_of_decimal {text : List Char} (h : WritesDecimal text) : quoted? text = none := by
  refine Option.eq_none_iff_forall_ne_some.mpr fun content hquoted => ?_
  obtain ⟨mark, hmark, -, hquote⟩ := quoted?_eq_some_iff.mp hquoted
  obtain ⟨⟨c, rest, hfirst, hc⟩, -⟩ := h.exists_ends
  rw [hquote] at hfirst
  obtain ⟨rfl, -⟩ := List.cons.inj hfirst
  rcases hmark with rfl | rfl <;> exact absurd hc (by decide)

/-- A literal is read off exactly the texts that write it. -/
theorem literal?_eq_some_iff {text : List Char} {literal : Literal} :
    literal? text = some literal ↔ literal.Writes text := by
  constructor
  · intro h
    rw [literal?] at h
    cases hquoted : quoted? text with
    | some content =>
      rw [hquoted] at h
      cases h
      obtain ⟨mark, rfl | rfl, hnot, rfl⟩ := quoted?_eq_some_iff.mp hquoted
      · exact .single hnot
      · exact .double hnot
    | none =>
      rw [hquoted] at h
      dsimp only at h
      split at h
      case isFalse => cases h
      case isTrue hdecimal =>
      cases h
      exact .number (isDecimal_iff.mp hdecimal)
  · intro h
    rw [literal?]
    cases h with
    | single hnot => rw [quoted?_eq_some_iff.mpr ⟨_, .inl rfl, hnot, rfl⟩]
    | double hnot => rw [quoted?_eq_some_iff.mpr ⟨_, .inr rfl, hnot, rfl⟩]
    | number hdecimal => rw [quoted?_of_decimal hdecimal, if_pos (isDecimal_iff.mpr hdecimal)]

end Clause

/-- No blank is at the ends of a literal. -/
theorem Literal.Writes.firm {text : List Char} {literal : Literal} (h : literal.Writes text) :
    Firm text ∧ text ≠ [] := by
  cases h with
  | single => exact ⟨firm_of_ends rfl (by decide) (List.cons_append ..).symm (by decide), List.cons_ne_nil _ _⟩
  | double => exact ⟨firm_of_ends rfl (by decide) (List.cons_append ..).symm (by decide), List.cons_ne_nil _ _⟩
  | number h => exact ⟨h.firm, h.ne_nil⟩

/-! ## Equations -/

/-- A run of word characters has no blank. -/
theorem firm_of_isWordChar {field : List Char} (h : ∀ c ∈ field, isWordChar c = true) : Firm field :=
  ⟨fun c hc => isBlank_of_isWordChar (h c (List.mem_of_mem_head? hc)),
    fun c hc => isBlank_of_isWordChar (h c (List.mem_reverse.mp (List.mem_of_mem_head? hc)))⟩

namespace Clause

/-- An equals sign with blanks around it is read with what follows. -/
theorem afterEquals?_eq_some_iff {text right : List Char} :
    afterEquals? text = some right ↔ ∃ before behind, Blanks before ∧ Blanks behind ∧ Stops isBlank right ∧
      text = before ++ '=' :: (behind ++ right) := by
  constructor
  · intro h
    obtain ⟨before, hbefore, htext⟩ := exists_dropWhile isBlank text
    rw [afterEquals?] at h
    split at h
    case h_2 => cases h
    case h_1 rest hrest =>
    cases h
    obtain ⟨behind, hbehind, hright⟩ := exists_dropWhile isBlank rest
    refine ⟨before, behind, hbefore, hbehind, stops_dropWhile _ _, ?_⟩
    rw [← hright, ← hrest]
    exact htext
  · rintro ⟨before, behind, hbefore, hbehind, hright, rfl⟩
    have hequals : Stops isBlank ('=' :: (behind ++ right)) := stops_cons (by decide)
    rw [afterEquals?, dropWhile_run hbefore hequals]
    exact congrArg some (dropWhile_run hbehind hright)

/-- The clause that a text without blanks around it and without the word WHERE in front writes. -/
def readBody? (body : List Char) : Option Clause :=
  match afterEquals? (body.dropWhile isWordChar) with
  | none => none
  | some right =>
    if body.takeWhile isWordChar = ['1'] && right = ['1'] then some .always
    else if body.takeWhile isWordChar = ['0'] && right = ['1'] then some .never
    else if (body.takeWhile isWordChar).isEmpty then none
    else (literal? right).map (.equals (String.ofList (body.takeWhile isWordChar)))

theorem read?_eq (text : String) : read? text = readBody? (trim (withoutWhere text.toList)) := rfl

/-- An equation is read side by side. -/
theorem readBody?_equation {field before behind right : List Char} (hfield : ∀ c ∈ field, isWordChar c = true)
    (hbefore : Blanks before) (hbehind : Blanks behind) (hright : Stops isBlank right) :
    readBody? (equation field before behind right) =
      if field = ['1'] && right = ['1'] then some always
      else if field = ['0'] && right = ['1'] then some never
      else if field.isEmpty then none
      else (literal? right).map (equals (String.ofList field)) := by
  have hstop : Stops isWordChar (before ++ '=' :: (behind ++ right)) :=
    .append (fun c hc => isWordChar_of_isBlank (hbefore c hc)) (stops_cons (by decide))
  have hequals := afterEquals?_eq_some_iff.mpr ⟨before, behind, hbefore, hbehind, hright, rfl⟩
  simp only [readBody?, equation, takeWhile_run hfield hstop, dropWhile_run hfield hstop, hequals]

/-- A clause is read off exactly the texts that write it, if nothing is around it. -/
theorem readBody?_eq_some_iff {body : List Char} {clause : Clause} :
    readBody? body = some clause ↔ clause.Writes body := by
  constructor
  · intro h
    obtain ⟨field, hfield, hbody⟩ := exists_dropWhile isWordChar body
    cases hequals : afterEquals? (body.dropWhile isWordChar) with
    | none =>
      rw [readBody?, hequals] at h
      cases h
    | some right =>
      obtain ⟨before, behind, hbefore, hbehind, hright, hrest⟩ := afterEquals?_eq_some_iff.mp hequals
      have hequation : body = equation field before behind right := hbody.trans (congrArg (field ++ ·) hrest)
      rw [hequation, readBody?_equation hfield hbefore hbehind hright] at h
      rw [hequation]
      split at h
      case isTrue hyes =>
        obtain ⟨rfl, rfl⟩ : field = ['1'] ∧ right = ['1'] := by simpa using hyes
        cases h
        exact .always hbefore hbehind
      case isFalse hyes =>
      split at h
      case isTrue hno =>
        obtain ⟨rfl, rfl⟩ : field = ['0'] ∧ right = ['1'] := by simpa using hno
        cases h
        exact .never hbefore hbehind
      case isFalse hno =>
      split at h
      case isTrue => cases h
      case isFalse hempty =>
      obtain ⟨literal, hliteral, rfl⟩ := Option.map_eq_some_iff.mp h
      refine .equals (by simpa using hempty) hfield hbefore hbehind (literal?_eq_some_iff.mp hliteral) fun hone => ?_
      exact ⟨fun e => hyes (by simp [e, hone]), fun e => hno (by simp [e, hone])⟩
  · intro h
    cases h with
    | always hbefore hbehind =>
      rw [readBody?_equation (List.forall_mem_singleton.mpr (by decide)) hbefore hbehind (stops_cons (by decide))]
      rfl
    | never hbefore hbehind =>
      rw [readBody?_equation (List.forall_mem_singleton.mpr (by decide)) hbefore hbehind (stops_cons (by decide))]
      rfl
    | equals hne hfield hbefore hbehind hliteral hfirst =>
      rw [readBody?_equation hfield hbefore hbehind hliteral.firm.1.1, literal?_eq_some_iff.mpr hliteral,
        if_neg (by simpa using fun e hone => (hfirst hone).1 e),
        if_neg (by simpa using fun e hone => (hfirst hone).2 e), if_neg (by simpa using hne)]
      rfl

/-- No blank is at the ends of a clause, and it has an equals sign. -/
theorem Writes.firm {body : List Char} {clause : Clause} (h : clause.Writes body) :
    Firm body ∧ body ≠ [] ∧ '=' ∈ body := by
  have hequation {field before behind right : List Char} (hne : field ≠ []) (hfield : ∀ c ∈ field, isWordChar c = true)
      (hright : Firm right ∧ right ≠ []) : Firm (equation field before behind right) ∧
        equation field before behind right ≠ [] ∧ '=' ∈ equation field before behind right := by
    refine ⟨?_, by simp [equation], by simp [equation]⟩
    have hfirm := (firm_of_isWordChar hfield).append hne hright.1 hright.2 (before ++ '=' :: behind)
    rwa [List.append_assoc, List.cons_append] at hfirm
  have hone : ∀ c ∈ ['1'], isWordChar c = true := List.forall_mem_singleton.mpr (by decide)
  have hnull : ∀ c ∈ ['0'], isWordChar c = true := List.forall_mem_singleton.mpr (by decide)
  have hright : Firm ['1'] ∧ ['1'] ≠ [] := ⟨firm_of_isWordChar hone, List.cons_ne_nil _ _⟩
  cases h with
  | always => exact hequation (List.cons_ne_nil _ _) hone hright
  | never => exact hequation (List.cons_ne_nil _ _) hnull hright
  | equals hne hfield _ _ hliteral _ => exact hequation hne hfield hliteral.firm

/-- A text that begins with a clause begins with no blank. -/
theorem Writes.stops_append {body : List Char} {clause : Clause} (h : clause.Writes body) (rest : List Char) :
    Stops isBlank (body ++ rest) := by
  obtain ⟨⟨hfirst, -⟩, hne, -⟩ := h.firm
  cases body with
  | nil => exact absurd rfl hne
  | cons c body => exact stops_cons (hfirst c rfl)

/-! ## The word in front -/

/-- No blank is in a spelling of WHERE, and no equals sign. -/
theorem not_mem_where {word : List Char} (h : Spells "where".toList word) :
    (∀ c ∈ word, isBlank c = false) ∧ '=' ∉ word := by
  have hcodes : ∀ n ∈ blankCodes, "where".toList.any (standsFor · (Char.ofNat n)) = false := by decide +kernel
  refine ⟨fun c hc => ?_, h.not_mem (by decide)⟩
  cases hb : isBlank c with
  | false => rfl
  | true =>
    have hforeign := hcodes _ (mem_blankCodes hb)
    rw [Char.ofNat_toNat] at hforeign
    exact absurd hc (h.not_mem hforeign)

/-- The word WHERE is taken off with the blanks around it. -/
theorem withoutWhere_append {lead word gap rest : List Char} (hlead : Blanks lead)
    (hword : Spells "where".toList word) (hgap : Blanks gap) (hne : gap ≠ []) (hrest : Stops isBlank rest) :
    withoutWhere (lead ++ (word ++ (gap ++ rest))) = rest := by
  have hfront : Stops isBlank (word ++ (gap ++ rest)) :=
    stops_append (fun e => by rw [e] at hword; cases hword) (not_mem_where hword).1 _
  rw [withoutWhere, dropWhile_run hlead hfront, hword.afterKeyword?]
  cases gap with
  | nil => exact absurd rfl hne
  | cons blank gap =>
    rw [List.cons_append]
    dsimp only
    rw [if_pos (hgap _ List.mem_cons_self), dropWhile_run (fun c hc => hgap c (List.mem_cons_of_mem _ hc)) hrest]

/-- A text that begins otherwise is left as it is. -/
theorem withoutWhere_eq_self {text : List Char} (h : ¬OpensWithWhere (text.dropWhile isBlank)) :
    withoutWhere text = text := by
  rw [withoutWhere]
  split
  case h_1 c rest hrest =>
    obtain ⟨word, hword, htext⟩ := afterKeyword?_eq_some_iff.mp hrest
    exact if_neg fun hblank => h ⟨word, c, rest, hword, hblank, htext⟩
  case h_2 => rfl

/-- Blanks behind a clause do not make WHERE of it. -/
theorem Writes.not_opensWithWhere {body : List Char} {clause : Clause} (h : clause.Writes body)
    (hnot : ¬OpensWithWhere body) (trail : List Char) : ¬OpensWithWhere (body ++ trail) := by
  rintro ⟨word, blank, rest, hword, hblank, htext⟩
  rcases List.append_eq_append_iff.mp htext with ⟨more, hmore, -⟩ | ⟨more, hmore, hrest⟩
  · exact (not_mem_where hword).2 (hmore ▸ List.mem_append_left _ h.firm.2.2)
  · cases more with
    | nil =>
      rw [List.append_nil] at hmore
      exact (not_mem_where hword).2 (hmore ▸ h.firm.2.2)
    | cons c more =>
      obtain ⟨rfl, -⟩ := List.cons.inj hrest
      exact hnot ⟨word, blank, more, hword, hblank, hmore⟩

/-- **A clause is read off exactly the texts that write it.** -/
theorem read?_eq_some_iff {text : String} {clause : Clause} :
    read? text = some clause ↔ clause.Written text.toList := by
  rw [read?_eq]
  constructor
  · intro h
    obtain ⟨lead, hlead, htext⟩ := exists_dropWhile isBlank text.toList
    have hbody := readBody?_eq_some_iff.mp h
    by_cases hopens : OpensWithWhere (text.toList.dropWhile isBlank)
    · obtain ⟨word, blank, behind, hword, hblank, hfront⟩ := hopens
      obtain ⟨gap, hgap, hbehind⟩ := exists_dropWhile isBlank behind
      obtain ⟨more, trail, hmore, htrail, hrest⟩ := exists_trim (behind.dropWhile isBlank)
      have hblanks : Blanks (blank :: gap) := List.forall_mem_cons.mpr ⟨hblank, hgap⟩
      have hall : text.toList = lead ++ (word ++ (blank :: gap ++ behind.dropWhile isBlank)) := by
        rw [htext, hfront, List.cons_append, ← hbehind]
      have hwithout : withoutWhere text.toList = behind.dropWhile isBlank := by
        rw [hall]
        exact withoutWhere_append hlead hword hblanks (List.cons_ne_nil _ _) (stops_dropWhile _ _)
      rw [hwithout] at hbody
      rw [hall, hrest, ← List.append_assoc (blank :: gap)]
      exact .behindWhere hlead hword (fun c hc => (List.mem_append.mp hc).elim (hblanks c) (hmore c))
        (by simp) htrail hbody
    · rw [withoutWhere_eq_self hopens] at hbody
      obtain ⟨lead, trail, hlead, htrail, htext⟩ := exists_trim text.toList
      rw [htext, dropWhile_run hlead (hbody.stops_append trail)] at hopens
      rw [htext]
      refine .bare hlead htrail hbody fun ⟨word, blank, rest, hword, hblank, hopen⟩ => hopens ?_
      exact ⟨word, blank, rest ++ trail, hword, hblank, by rw [hopen, List.append_assoc, List.cons_append]⟩
  · intro h
    generalize text.toList = chars at h
    cases h with
    | bare hlead htrail hbody hnot =>
      have hopens := hbody.not_opensWithWhere hnot
      rw [withoutWhere_eq_self (by rw [dropWhile_run hlead (hbody.stops_append _)]; exact hopens _),
        trim_append hlead htrail hbody.firm.1]
      exact readBody?_eq_some_iff.mpr hbody
    | behindWhere hlead hword hgap hne htrail hbody =>
      rw [withoutWhere_append hlead hword hgap hne (hbody.stops_append _)]
      have htrim := @trim_append [] _ _ nofun htrail hbody.firm.1
      rw [List.nil_append] at htrim
      rw [htrim]
      exact readBody?_eq_some_iff.mpr hbody

/-! ## Selecting -/

/-- A clause holds of the records that meet it. -/
theorem holds_eq_true_iff {record : Record} {clause : Clause} : holds record clause = true ↔ clause.IsMet record := by
  cases clause with
  | always => simp [holds, IsMet]
  | never => simp [holds, IsMet]
  | equals field literal =>
    cases literal with
    | text s => simp [holds, matchesLiteral, IsMet]
    | number numeral =>
      simp only [holds, matchesLiteral, IsMet]
      cases (Record.get record field).toNumber? <;> cases textNumber? numeral <;> simp

/-- A value selects the records that meet the clause it writes. -/
theorem selects_eq_true_iff {value : Value} {record : Record} :
    selects value record = true ↔
      ∃ text, ∃ clause : Clause, value = .text text ∧ clause.Written text.toList ∧ clause.IsMet record := by
  constructor
  · intro h
    cases value with
    | text text =>
      cases hread : read? text with
      | none =>
        rw [selects, hread] at h
        cases h
      | some clause =>
        rw [selects, hread] at h
        exact ⟨text, clause, rfl, read?_eq_some_iff.mp hread, holds_eq_true_iff.mp h⟩
    | _ => cases h
  · rintro ⟨text, clause, rfl, hwritten, hmet⟩
    rw [selects, read?_eq_some_iff.mpr hwritten]
    exact holds_eq_true_iff.mpr hmet

/-- An equation does not open with WHERE unless its field is named so. -/
theorem not_opensWithWhere_equation {field before behind right : List Char}
    (hfield : ∀ c ∈ field, isWordChar c = true) (hname : ¬Spells "where".toList field) (hbefore : Blanks before) :
    ¬OpensWithWhere (equation field before behind right) := by
  rintro ⟨word, blank, rest, hword, hblank, htext⟩
  obtain ⟨hnone, hequals⟩ := not_mem_where hword
  rcases List.append_eq_append_iff.mp htext with ⟨more, hmore, hrest⟩ | ⟨more, hmore, hrest⟩
  · cases more with
    | nil => exact hname (by rwa [hmore, List.append_nil] at hword)
    | cons c more =>
      have hc : c ∈ word := hmore ▸ List.mem_append_right _ List.mem_cons_self
      cases before with
      | nil =>
        obtain ⟨rfl, -⟩ := List.cons.inj hrest
        exact hequals hc
      | cons d before =>
        obtain ⟨rfl, -⟩ := List.cons.inj hrest
        exact absurd ((hnone d hc).symm.trans (hbefore d List.mem_cons_self)) (by decide)
  · cases more with
    | nil => exact hname (by rwa [hmore, List.append_nil])
    | cons c more =>
      obtain ⟨rfl, -⟩ := List.cons.inj hrest
      have hc := hfield blank (hmore ▸ List.mem_append_right _ List.mem_cons_self)
      exact absurd (hblank.symm.trans (isBlank_of_isWordChar hc)) (by decide)

/-- A clause that does not open with WHERE is written with anything that may stand in front of it. -/
theorem Writes.written {clause : Clause} {body lead front trail : List Char} (h : clause.Writes body)
    (hopens : ¬OpensWithWhere body) (hlead : Blanks lead) (hfront : IsFront front) (htrail : Blanks trail) :
    clause.Written (lead ++ (front ++ (body ++ trail))) := by
  cases hfront with
  | nothing =>
    rw [List.nil_append]
    exact .bare hlead htrail h hopens
  | word hword hgap hne =>
    rw [List.append_assoc]
    exact .behindWhere hlead hword hgap hne htrail h

/-- **A value selects exactly the records that meet the clause it writes.** Each text writes at most one clause, the
one that is read off it, and a value that writes none selects nothing. In particular an equation of a field with a
quoted text, however it is spaced and with the word WHERE in front or not, selects the records whose field has that
text. -/
theorem selects_written :
    (∀ text clause, read? text = some clause ↔ clause.Written text.toList) ∧
    (∀ value record, selects value record = true ↔
      ∃ text, ∃ clause : Clause, value = .text text ∧ clause.Written text.toList ∧ clause.IsMet record) ∧
    ∀ field content lead front before behind trail : List Char,
      field ≠ [] → (∀ c ∈ field, isWordChar c = true) → ¬Spells "where".toList field → '\'' ∉ content →
      Blanks lead → IsFront front → Blanks before → Blanks behind → Blanks trail → ∀ record,
        (selects (.text (String.ofList (lead ++ (front ++
            (equation field before behind ('\'' :: (content ++ ['\''])) ++ trail))))) record = true ↔
          (Record.get record (String.ofList field)).toTextOrEmpty = String.ofList content) := by
  refine ⟨fun _ _ => read?_eq_some_iff, fun _ _ => selects_eq_true_iff, ?_⟩
  intro field content lead front before behind trail hne hfield hname hcontent hlead hfront hbefore hbehind htrail record
  have hwrites : (equals (String.ofList field) (.text (String.ofList content))).Writes
      (equation field before behind ('\'' :: (content ++ ['\'']))) :=
    .equals hne hfield hbefore hbehind (.single hcontent) (by simp)
  have hopens : ¬OpensWithWhere (equation field before behind ('\'' :: (content ++ ['\'']))) :=
    not_opensWithWhere_equation hfield hname hbefore
  have hwritten := hwrites.written hopens hlead hfront htrail
  rw [← String.toList_ofList (l := lead ++ _), ← read?_eq_some_iff] at hwritten
  rw [selects, hwritten]
  exact @holds_eq_true_iff record (.equals _ (.text _))

/-- A spaced equation behind the word WHERE, about a record that has the field and about one that has not. -/
theorem selects_written_menu :
    selects (.text " Where menu = 'Sports'\n") [("menu", .text "Sports")] = true ∧
      ¬selects (.text " Where menu = 'Sports'\n") [("body", .text "Sports")] = true := by
  have h := selects_written.2.2 "menu".toList "Sports".toList [' '] ("Where".toList ++ [' ']) [' '] [' '] ['\n']
    (by decide) (List.all_eq_true.mp (by decide)) (by decide) (by decide) (by decide)
    (.word (by decide) (by decide) (by decide)) (by decide) (by decide) (by decide)
  exact ⟨(h [("menu", .text "Sports")]).mpr rfl, mt (h [("body", .text "Sports")]).mp (by decide)⟩

end Clause

end FrontPage
