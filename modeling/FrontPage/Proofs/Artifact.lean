import FrontPage.Artifact
import FrontPage.Proofs.Text.Occurrence

/-!
# Pages inside template literals

A script holds its page as a template literal, and `LiteralReading.read` reads such a literal as the language of scripts
does. What is escaped in a page is what means something there: backslashes, backticks and dollars before an opening
brace, all at once or one kind after the other (`escapeInTurn_eq`). A page that is escaped so is read back as it is
(`LiteralReading.read_escapeTemplate`), so that no page ends the literal of its script or begins a substitution in it
(`wrapScript_reads_back`).
-/

namespace FrontPage

open FrontPage.Text

/-! ## Reading -/

/-- What the reading of a template literal comes to, with what the literal holds up to there. -/
inductive LiteralReading where
  /-- A backtick ends the literal, and a text follows. -/
  | closed (content behind : List Char)
  /-- A dollar and an opening brace begin a substitution, and a text follows. -/
  | substitution (content behind : List Char)
  /-- The text ends before the literal does. -/
  | unfinished (content : List Char)
  deriving DecidableEq, Repr

namespace LiteralReading

/-- The reading of a literal that holds one more character in front. -/
def cons (c : Char) : LiteralReading → LiteralReading
  | closed content behind => closed (c :: content) behind
  | substitution content behind => substitution (c :: content) behind
  | unfinished content => unfinished (c :: content)

/-- Reads a template literal from behind its opening backtick. A backslash makes the next character literal, and any
other character that neither ends the literal nor begins a substitution stands for itself. -/
def read : List Char → LiteralReading
  | [] => unfinished []
  | '\x60' :: behind => closed [] behind
  | '\\' :: c :: rest => (read rest).cons c
  | '$' :: '\x7b' :: behind => substitution [] behind
  | c :: rest => (read rest).cons c

/-- The character means nothing of its own in a literal where it has another text behind it. -/
def IsPlain (c : Char) (rest : List Char) : Prop :=
  c ≠ '\\' ∧ c ≠ '\x60' ∧ ¬(c = '$' ∧ rest.head? = some '\x7b')

theorem read_plain {c : Char} {rest : List Char} (h : IsPlain c rest) : read (c :: rest) = (read rest).cons c := by
  obtain ⟨hbackslash, hbacktick, hdollar⟩ := h
  rw [read.eq_def]
  split <;> simp_all

/-! ## Escaping -/

/-- What is neither a dollar before an opening brace nor another mark is plain. -/
theorem isPlain_of_unmarked {c : Char} {rest : List Char} (hdollar : ∀ more, c = '$' → rest = '\x7b' :: more → False)
    (hmark : ¬(decide (c = '\\') || decide (c = '\x60')) = true) : IsPlain c rest := by
  simp only [Bool.or_eq_true, decide_eq_true_eq, not_or] at hmark
  refine ⟨hmark.1, hmark.2, ?_⟩
  rintro ⟨hc, hhead⟩
  obtain ⟨more, hrest⟩ := List.head?_eq_some_iff.mp hhead
  exact hdollar more hc hrest

/-- An escaped text begins with an opening brace only if the text does. -/
theorem head?_of_escapeTemplate {text behind : List Char} :
    (escapeTemplate text ++ '\x60' :: behind).head? = some '\x7b' → text.head? = some '\x7b' := by
  fun_cases escapeTemplate text with
  | case1 => exact nofun
  | case2 => exact nofun
  | case3 => exact nofun
  | case4 => exact id

/-- **What is escaped is read back as it is**, up to the backtick behind it. -/
theorem read_escapeTemplate (text behind : List Char) :
    read (escapeTemplate text ++ '\x60' :: behind) = closed text behind := by
  fun_induction escapeTemplate text with
  | case1 => rfl
  | case2 rest ih =>
    -- The brace behind the escaped dollar stands for itself.
    have hbrace : IsPlain '\x7b' (escapeTemplate rest ++ '\x60' :: behind) := by simp [IsPlain]
    show (read ('\x7b' :: (escapeTemplate rest ++ '\x60' :: behind))).cons '$' = _
    rw [read_plain hbrace, ih]
    rfl
  | case3 c rest hdollar hmark ih =>
    show (read (escapeTemplate rest ++ '\x60' :: behind)).cons c = _
    rw [ih]
    rfl
  | case4 c rest hdollar hmark ih =>
    obtain ⟨hbackslash, hbacktick, hopens⟩ := isPlain_of_unmarked hdollar hmark
    have hplain : IsPlain c (escapeTemplate rest ++ '\x60' :: behind) :=
      ⟨hbackslash, hbacktick, fun h => hopens ⟨h.1, head?_of_escapeTemplate h.2⟩⟩
    rw [List.cons_append, read_plain hplain, ih]
    rfl

end LiteralReading

/-- The text with backslashes, backticks, and dollars before opening braces escaped, one kind after the other. -/
def escapeInTurn (text : List Char) : List Char :=
  replaceAll ['$', '\x7b'] ['\\', '$', '\x7b']
    (replaceAll ['\x60'] ['\\', '\x60'] (replaceAll ['\\'] ['\\', '\\'] text))

/-- A letter with a backslash in front of it if it is a backslash or a backtick. -/
def escapeLetter (c : Char) : List Char := if c = '\\' || c = '\x60' then ['\\', c] else [c]

/-- The first two kinds of marks are escaped letter by letter. -/
theorem escapeLetters_eq (text : List Char) :
    replaceAll ['\x60'] ['\\', '\x60'] (replaceAll ['\\'] ['\\', '\\'] text) = text.flatMap escapeLetter := by
  rw [replaceAll_singleton, replaceAll_singleton, List.flatMap_assoc]
  refine congrArg (text.flatMap ·) (funext fun c => ?_)
  rw [escapeLetter]
  by_cases hbackslash : c = '\\'
  · subst hbackslash
    rfl
  · by_cases hbacktick : c = '\x60' <;> simp [hbackslash, hbacktick]

theorem head?_of_escapeLetters {text : List Char} :
    (text.flatMap escapeLetter).head? = some '\x7b' → text.head? = some '\x7b' := by
  cases text with
  | nil => exact nofun
  | cons c text =>
    rw [List.flatMap_cons, escapeLetter]
    split
    · exact nofun
    · exact id

/-- Escaping one kind after the other is escaping all of them at once: the backslashes that are put in for one kind are
no marks of the next, and part no dollar from its opening brace. -/
theorem escapeInTurn_eq (text : List Char) : escapeInTurn text = escapeTemplate text := by
  rw [escapeInTurn, escapeLetters_eq]
  have hother {c : Char} (hc : c ≠ '$') (rest : List Char) : ¬['$', '\x7b'] <+: c :: rest :=
    fun h => hc (List.cons_prefix_cons.mp h).1.symm
  fun_induction escapeTemplate text with
  | case1 => rfl
  | case2 rest ih =>
    show replaceAll _ _ (['$', '\x7b'] ++ rest.flatMap escapeLetter) = _
    rw [replaceAll_append_self (List.cons_ne_nil _ _), ih]
    rfl
  | case3 c rest hdollar hmark ih =>
    have hc : c ≠ '$' := by
      rintro rfl
      exact absurd hmark (by decide)
    rw [List.flatMap_cons, escapeLetter, if_pos hmark]
    show replaceAll _ _ ('\\' :: c :: rest.flatMap escapeLetter) = _
    rw [replaceAll_cons_of_not_begins (hother (by decide) _), replaceAll_cons_of_not_begins (hother hc _), ih]
  | case4 c rest hdollar hmark ih =>
    obtain ⟨-, -, hopens⟩ := LiteralReading.isPlain_of_unmarked hdollar hmark
    have hword : ¬['$', '\x7b'] <+: c :: rest.flatMap escapeLetter := by
      intro h
      obtain ⟨hc, hbrace⟩ := List.cons_prefix_cons.mp h
      obtain ⟨more, hmore⟩ := hbrace
      exact hopens ⟨hc.symm, head?_of_escapeLetters (by rw [← hmore]; rfl)⟩
    rw [List.flatMap_cons, escapeLetter, if_neg hmark, List.singleton_append, replaceAll_cons_of_not_begins hword, ih]

/-- **A page is read back from its script as it is.** Behind the opening backtick of the script stands the page, escaped
one kind of mark after the other, and the closing backtick of the script. Read as a template literal, that ends at this
backtick, no substitution begins before it, and what the literal holds is the page. -/
theorem wrapScript_reads_back (function html : String) : ∃ escaped,
    (wrapScript function html).toList = ("function " ++ function ++ "()\x7bdocument.write(").toList ++
      '\x60' :: (escaped ++ '\x60' :: ");\x7d\n\n".toList) ∧
    escaped = escapeInTurn html.toList ∧
    LiteralReading.read (escaped ++ '\x60' :: ");\x7d\n\n".toList) = .closed html.toList ");\x7d\n\n".toList := by
  refine ⟨escapeTemplate html.toList, ?_, (escapeInTurn_eq _).symm, LiteralReading.read_escapeTemplate _ _⟩
  simp [wrapScript]

/-- A page that is not escaped may end the literal or begin a substitution. -/
example : LiteralReading.read ['a', '\x60', 'b', '\x60'] = .closed ['a'] ['b', '\x60'] ∧
    LiteralReading.read ['a', '$', '\x7b', 'b', '\x60'] = .substitution ['a'] ['b', '\x60'] := by decide

end FrontPage
