import FrontPage.Proofs.Template.Reading

/-!
# Rendering a written block evaluates it

A block may be written in many ways, and rendering any of them for a record gives what the tree of the block evaluates
to (`render_eq_evalBlock`). The scan of a written conditional finds its branches (`branches_of_writes`), so that the
branch chosen is the case that the tree selects (`resolve_of_listing`). What is left of a block once its conditionals
are decided is again a text of pieces (`resolveBlock_of_writes`), and substitution evaluates these one by one
(`substitute_written`).
-/

namespace FrontPage.Tree

open FrontPage.Text

/-! ## Branches -/

/-- The condition of a branch and its content. -/
def ofBranch (branch : Branch) : Option Condition × List Char := (branch.condition, branch.content)

/-- The branches that a conditional with these cases has. -/
def listing (cases : List Case) (otherwise : Option (List Piece)) : List (Option Condition × List Char) :=
  cases.map (fun c => (some c.test.condition, written c.contents)) ++
    (otherwise.map fun contents => (none, written contents)).toList

/-- Characters in front of the marks of a body belong to the branch that is open. -/
theorem branchesFrom_text {tag content : List Char} {condition : Option Condition} {marks : List (Char ⊕ BranchTag)}
    {others : List Branch} (h : Conditional.branchesFrom tag condition marks = ⟨tag, condition, content⟩ :: others)
    (text : List Char) : Conditional.branchesFrom tag condition (text.map .inl ++ marks) =
      ⟨tag, condition, text ++ content⟩ :: others := by
  induction text with
  | nil => exact h
  | cons c text ih =>
    rw [List.map_cons, List.cons_append, Conditional.branchesFrom, ih]
    rfl

/-- The characters of a text are scanned from it. -/
theorem sourceText_map_inl (text : List Char) : Conditional.sourceText (text.map .inl) = text := by
  simp [Conditional.sourceText, List.flatMap_map]

/-- The scan of pieces, as the content of a branch, lists their text. -/
theorem scan_written (pieces : List Piece) (rest : List Char) :
    scan Conditional.readTag? (written pieces ++ rest) =
      (written pieces).map .inl ++ scan Conditional.readTag? rest :=
  scan_of_clear (clear_written braced_readTag? readTag?_key pieces rest)

/-- Behind the content of the open branch, the scan finds the further branches. -/
theorem branchesFrom_of_writes {more : List Case} {otherwise : Option (List Piece)} {text : List Char}
    (h : WritesBranches more otherwise text) (tag : List Char) (condition : Option Condition) :
    ∃ others, Conditional.branchesFrom tag condition (scan Conditional.readTag? text) =
      ⟨tag, condition, []⟩ :: others ∧ others.map ofBranch = listing more otherwise := by
  induction h generalizing tag condition with
  | none => exact ⟨[], rfl, rfl⟩
  | @otherwise spelled contents hs =>
    have hscan := scan_written contents []
    rw [List.append_nil, scan_nil, List.append_nil] at hscan
    rw [scan_of_mark (by simp [braced]) (readTag?_else hs _), hscan]
    exact ⟨[⟨braced spelled, none, _⟩], rfl, by simp [listing, ofBranch, sourceText_map_inl]⟩
  | @case c more otherwise tag' text ht _ ih =>
    obtain ⟨others, ho, hl⟩ := ih tag' (some c.test.condition)
    have hne : tag' ≠ [] := by
      obtain ⟨-, -, -, -⟩ := ht
      simp [braced]
    rw [scan_of_mark hne (readTag?_elseIf c.test ht _), scan_written, Conditional.branchesFrom,
      branchesFrom_text ho]
    exact ⟨_, rfl, by simp [hl, listing, ofBranch]⟩

/-- The branches of a written conditional are its cases, and the contents of its Else tag if it has one. -/
theorem branches_of_writes {choice : Choice} {text : List Char}
    (h : WritesBranches choice.more choice.otherwise text) :
    (Conditional.branches ⟨choice.first.test.condition, written choice.first.contents ++ text⟩).map ofBranch =
      listing (choice.first :: choice.more) choice.otherwise := by
  obtain ⟨others, ho, hl⟩ := branchesFrom_of_writes h [] (some choice.first.test.condition)
  rw [Conditional.branches, scan_written, branchesFrom_text ho]
  simp [hl, listing, ofBranch]

/-- The first branch of some cases that a record gets is what it selects of them. -/
theorem find?_of_listing (record : Record) {branches : List Branch} {cases : List Case}
    {otherwise : Option (List Piece)} (h : branches.map ofBranch = listing cases otherwise) :
    let found := branches.find? fun branch => (branch.condition.map (·.holds record)).getD true
    (found.map Branch.content).getD [] = written (select record otherwise cases).1 ∧
      found.bind Branch.condition = (select record otherwise cases).2 := by
  induction cases generalizing branches with
  | nil =>
    cases otherwise with
    | none =>
      obtain rfl : branches = [] := List.map_eq_nil_iff.mp h
      exact ⟨rfl, rfl⟩
    | some contents =>
      obtain ⟨branch, others, rfl, hb, -⟩ := List.map_eq_cons_iff.mp h
      simp only [ofBranch, Prod.mk.injEq] at hb
      simp [hb.1, hb.2, select]
  | cons c cases ih =>
    obtain ⟨branch, others, rfl, hb, ho⟩ := List.map_eq_cons_iff.mp h
    simp only [ofBranch, Prod.mk.injEq] at hb
    cases hc : c.test.condition.holds record with
    | true => simp [hb.1, hb.2, hc, select]
    | false => simpa [hb.1, hc, select] using ih ho

/-- A conditional with the branches of some cases leaves the contents that a record selects of them, and the number
that the selecting condition compares with. -/
theorem resolve_of_listing (record : Record) {c : Conditional} {cases : List Case} {otherwise : Option (List Piece)}
    (h : c.branches.map ofBranch = listing cases otherwise) :
    c.resolve record = ⟨written (select record otherwise cases).1,
      (select record otherwise cases).2.bind Condition.limit?⟩ := by
  obtain ⟨hcontent, hcondition⟩ := find?_of_listing record h
  rw [← hcontent, ← hcondition, Conditional.resolve, Conditional.choose]
  cases c.branches.find? fun branch => (branch.condition.map (·.holds record)).getD true with
  | none => rfl
  | some branch => rfl

/-! ## Blocks -/

/-- Characters of a block stay as they are. -/
theorem resolveMarks_text (record : Record) (text : List Char) (marks : List (Char ⊕ Conditional)) :
    resolveMarks record (text.map .inl ++ marks) =
      ⟨text ++ (resolveMarks record marks).text, (resolveMarks record marks).limit⟩ := by
  induction text with
  | nil => rfl
  | cons c text ih =>
    rw [List.map_cons, List.cons_append, resolveMarks, ih]
    rfl

/-- A text of a block in which no conditional begins stays as it is. -/
theorem resolveBlock_of_clear (record : Record) {text rest : List Char} (h : Clear Conditional.read? rest text) :
    resolveBlock record (text ++ rest) =
      ⟨text ++ (resolveBlock record rest).text, (resolveBlock record rest).limit⟩ := by
  rw [resolveBlock, scan_of_clear h, resolveMarks_text]
  rfl

/-- A written conditional in front of a text leaves the contents that the record selects, and its number counts unless
there is a later one. -/
theorem resolveBlock_conditional (record : Record) {choice : Choice} {tag text spelled : List Char}
    (ht : WritesTag ['i', 'f'] choice.first.test.condition tag)
    (hb : WritesBranches choice.more choice.otherwise text) (hs : Spells ['e', 'n', 'd', 'i', 'f'] spelled)
    (rest : List Char) :
    resolveBlock record (tag ++ (written choice.first.contents ++ text ++ braced spelled) ++ rest) =
      ⟨written (select record choice.otherwise (choice.first :: choice.more)).1 ++ (resolveBlock record rest).text,
        (resolveBlock record rest).limit.orElse fun _ =>
          (select record choice.otherwise (choice.first :: choice.more)).2.bind Condition.limit?⟩ := by
  have hbody : Clear Conditional.readEnd? (braced spelled ++ rest) (written choice.first.contents ++ text) :=
    (clear_written braced_readEnd? readEnd?_key choice.first.contents _).append (clear_branches hb _)
  have hread := read?_conditional choice.first.test ht hs rest hbody
  rw [resolveBlock, scan_of_mark (by simp [braced]) hread, resolveMarks,
    resolve_of_listing record (branches_of_writes hb)]
  rfl

/-- Once its conditionals are decided, a written block is a text of pieces. They show what the block evaluates to,
and the limit after the block is the one that is left, unless none is. -/
theorem resolveBlock_of_writes (record : Record) {nodes : List Node} {text : List Char} (h : WritesBlock nodes text) :
    ∃ pieces, (resolveBlock record text).text = written pieces ∧
      ∀ limit, evalBlock record limit nodes = (eval record pieces, (resolveBlock record text).limit.getD limit) := by
  -- The limit varies, because an earlier conditional sets the one that the rest of the block starts with.
  induction h with
  | nil => exact ⟨[], rfl, fun _ => rfl⟩
  | @cons node nodes text rest hn _ ih =>
    obtain ⟨pieces, htext, heval⟩ := ih
    cases hn with
    | piece piece =>
      have hclear := clear_written braced_read? read?_key [piece] rest
      rw [written, List.flatMap_singleton] at hclear
      rw [resolveBlock_of_clear record hclear]
      refine ⟨piece :: pieces, ?_, fun limit => ?_⟩
      · rw [htext]
        rfl
      · simp only [evalBlock, Node.eval, heval]
        rfl
    | @conditional choice tag text spelled ht hb hs =>
      rw [resolveBlock_conditional record ht hb hs rest]
      refine ⟨(select record choice.otherwise (choice.first :: choice.more)).1 ++ pieces, ?_, fun limit => ?_⟩
      · rw [htext, written, written, written, List.flatMap_append]
      · simp only [evalBlock, Node.eval, heval, eval, List.flatMap_append]
        cases (resolveBlock record rest).limit with
        | none => rfl
        | some last => rfl

/-! ## Substitution -/

/-- A text without placeholders in it stays as it is. -/
theorem substitute_of_clear (record : Record) {text rest : List Char} (h : Clear readPlaceholder? rest text) :
    substitute record (text ++ rest) = text ++ substitute record rest := by
  rw [substitute, scan_of_clear h, List.flatMap_append, List.flatMap_map, substitute]
  simp

/-- A placeholder in front of a text shows the field of its key. -/
theorem substitute_key (record : Record) (key : Key) (rest : List Char) :
    substitute record (braced key.name.toList ++ rest) = fieldText record key.name ++ substitute record rest := by
  rw [substitute, scan_of_mark (by simp [braced]) (readPlaceholder?_key key rest)]
  rfl

/-- Substitution in a text of pieces shows what the pieces show. -/
theorem substitute_written (record : Record) (pieces : List Piece) :
    substitute record (written pieces) = eval record pieces := by
  induction pieces with
  | nil => rfl
  | cons piece pieces ih =>
    show substitute record (piece.written ++ written pieces) = piece.eval record ++ eval record pieces
    rw [← ih]
    cases piece with
    | text plain => exact substitute_of_clear record (braced_readPlaceholder?.clear_of_notMem plain.no_brace _)
    | placeholder key =>
      rw [Piece.written, substitute_key, fieldText, Piece.eval]
      cases Record.get? record key.name with
      | none => rfl
      | some value => cases value <;> rfl

/-! ## Rendering -/

/-- **Rendering a written block for a record gives what its tree evaluates to**, and leaves the limit that the tree
leaves, whatever the limit is before it. -/
theorem render_eq_evalBlock (record : Record) (limit : Number) {nodes : List Node} {text : List Char}
    (h : WritesBlock nodes text) :
    (substitute record (resolveBlock record text).text, (resolveBlock record text).limit.getD limit) =
      evalBlock record limit nodes := by
  obtain ⟨pieces, htext, heval⟩ := resolveBlock_of_writes record h
  rw [htext, substitute_written, heval]

/-- A test of one field of a record, for the items in the west. -/
def westTest : Test where
  condition := ⟨"Region", some ("=", "west")⟩
  field_ne_nil := by decide
  isWordChar_of_mem := List.all_eq_true.mp (by decide)
  operator_ne_nil := by decide
  operator_length_le := by decide
  isOperatorChar_of_mem := by
    rintro _ ⟨⟩
    exact List.all_eq_true.mp (by decide)
  value_ne_nil := by decide
  isValueChar_of_mem := by
    rintro _ ⟨⟩
    exact List.all_eq_true.mp (by decide)

/-- A test with a number, for the first three items. -/
def earlyTest : Test where
  condition := ⟨"Counter", some ("<=", "3")⟩
  field_ne_nil := by decide
  isWordChar_of_mem := List.all_eq_true.mp (by decide)
  operator_ne_nil := by decide
  operator_length_le := by decide
  isOperatorChar_of_mem := by
    rintro _ ⟨⟩
    exact List.all_eq_true.mp (by decide)
  value_ne_nil := by decide
  isValueChar_of_mem := by
    rintro _ ⟨⟩
    exact List.all_eq_true.mp (by decide)

/-- The placeholder of a title. -/
def titleKey : Key where
  name := "Title"
  ne_nil := by decide
  isWordChar_of_mem := List.all_eq_true.mp (by decide)
  not_else := by decide
  not_endIf := by decide

/-- A block with a case for each of the two, and with other contents for the rest. -/
def regionBlock : List Node :=
  [.piece (.text ⟨['<', 'b', '>'], by decide⟩),
   .conditional ⟨⟨westTest, [.text ⟨['W'], by decide⟩]⟩,
    [⟨earlyTest, [.placeholder titleKey]⟩],
    some [.text ⟨['-'], by decide⟩]⟩]

/-- The second item of a page, from elsewhere. -/
def secondItem : Record := [("Title", .text "News"), ("Counter", .int 2)]

/-- A text of the block with keywords in odd letter cases and with odd blanks, rendered for the second item. -/
theorem render_regionBlock :
    let text := ['<', 'b', '>'] ++ braced "iF  Region =west".toList ++ ['W'] ++ braced "ElseIF Counter<= 3".toList ++
      placeholder "Title" ++ braced "ELSE".toList ++ ['-'] ++ braced "endIf".toList
    WritesBlock regionBlock text ∧
      (substitute secondItem (resolveBlock secondItem text).text,
        (resolveBlock secondItem text).limit.getD (.int 5)) = ("<b>News".toList, .int 3) := by
  intro text
  have hwest : WritesTag ['i', 'f'] westTest.condition (braced "iF  Region =west".toList) :=
    @WritesTag.tag _ _ ['i', 'F'] [' ', ' '] _ (by decide) (by decide) (by decide)
      (@WritesCondition.compared "Region" "=" "west" [' '] [] (by decide) (by decide))
  have hearly : WritesTag ['e', 'l', 's', 'e', 'i', 'f'] earlyTest.condition (braced "ElseIF Counter<= 3".toList) :=
    @WritesTag.tag _ _ ['E', 'l', 's', 'e', 'I', 'F'] [' '] _ (by decide) (by decide) (by decide)
      (@WritesCondition.compared "Counter" "<=" "3" [] [' '] (by decide) (by decide))
  have hmore := @WritesBranches.case
    ⟨earlyTest, [.placeholder titleKey]⟩ _ _ _ _ hearly
    (@WritesBranches.otherwise ['E', 'L', 'S', 'E'] [.text ⟨['-'], by decide⟩] (by decide))
  have hblock := WritesBlock.cons (.piece (.text ⟨['<', 'b', '>'], by decide⟩))
    (.cons (@WritesNode.conditional ⟨⟨westTest, [.text ⟨['W'], by decide⟩]⟩, _, _⟩ _ _ ['e', 'n', 'd', 'I', 'f']
      hwest hmore (by decide)) .nil)
  have htext : WritesBlock regionBlock text := hblock
  exact ⟨htext, (render_eq_evalBlock secondItem (.int 5) htext).trans (by decide +kernel)⟩

end FrontPage.Tree
