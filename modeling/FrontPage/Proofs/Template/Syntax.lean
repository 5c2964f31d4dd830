import FrontPage.Proofs.Text.Marks
import FrontPage.Proofs.Text.Spelling
import FrontPage.Template.Condition

/-!
# Syntax trees of blocks

A block is a list of nodes: plain texts, placeholders and conditionals, the latter with lists of texts and
placeholders as their contents. The types hold nothing that could not be written: a plain text has no opening brace, a
key is a word that spells neither Else nor EndIf, and a test is made of the characters that a tag allows.

`WritesBlock` relates a block to every text that writes it. Keywords may be in any letter case, one blank or more
separates them from their condition, and there may be any blanks around an operator.
-/

namespace FrontPage.Tree

/-! ## Trees -/

/-- A text in which no tag begins. -/
structure Plain where
  chars : List Char
  no_brace : '{' ∉ chars

/-- A key that a placeholder can have: a word that spells neither Else nor EndIf. -/
structure Key where
  name : String
  ne_nil : name.toList ≠ []
  isWordChar_of_mem : ∀ c ∈ name.toList, Text.isWordChar c = true
  not_else : ¬Text.Spells ['e', 'l', 's', 'e'] name.toList
  not_endIf : ¬Text.Spells ['e', 'n', 'd', 'i', 'f'] name.toList

/-- A condition that a tag can hold. -/
structure Test where
  condition : Condition
  field_ne_nil : condition.field.toList ≠ []
  isWordChar_of_mem : ∀ c ∈ condition.field.toList, Text.isWordChar c = true
  operator_ne_nil : ∀ p ∈ condition.comparison, p.1.toList ≠ []
  operator_length_le : ∀ p ∈ condition.comparison, p.1.toList.length ≤ 2
  isOperatorChar_of_mem : ∀ p ∈ condition.comparison, ∀ c ∈ p.1.toList, Condition.isOperatorChar c = true
  value_ne_nil : ∀ p ∈ condition.comparison, p.2.toList ≠ []
  isValueChar_of_mem : ∀ p ∈ condition.comparison, ∀ c ∈ p.2.toList, Condition.isValueChar c = true

/-- What the contents of a branch are made of. -/
inductive Piece where
  | text (plain : Plain)
  | placeholder (key : Key)

/-- A test with the contents that it selects. -/
structure Case where
  test : Test
  contents : List Piece

/-- A conditional: the case of its If tag, those of its ElseIf tags, and the contents of its Else tag if it has one. -/
structure Choice where
  first : Case
  more : List Case
  otherwise : Option (List Piece)

/-- What a block is made of. -/
inductive Node where
  | piece (piece : Piece)
  | conditional (choice : Choice)

/-! ## Written forms -/

/-- The text of a piece. -/
def Piece.written : Piece → List Char
  | .text plain => plain.chars
  | .placeholder key => Text.braced key.name.toList

/-- The text of some pieces. -/
def written (pieces : List Piece) : List Char := pieces.flatMap Piece.written

/-- Blanks only, or nothing at all. -/
def Blanks (text : List Char) : Prop := ∀ c ∈ text, Text.isBlank c = true

instance (text : List Char) : Decidable (Blanks text) := decidable_of_iff (text.all Text.isBlank = true) List.all_eq_true

/-- The texts that write a condition. -/
inductive WritesCondition : Condition → List Char → Prop
  | bare (field : String) : WritesCondition ⟨field, none⟩ field.toList
  | compared (field operator value : String) {before behind : List Char} : Blanks before → Blanks behind →
      WritesCondition ⟨field, some (operator, value)⟩
        (field.toList ++ (before ++ (operator.toList ++ (behind ++ value.toList))))

/-- The texts that write a tag of a keyword and a condition. -/
inductive WritesTag (keyword : List Char) (condition : Condition) : List Char → Prop
  | tag {spelled blanks text : List Char} : Text.Spells keyword spelled → Blanks blanks → blanks ≠ [] →
      WritesCondition condition text → WritesTag keyword condition (Text.braced (spelled ++ (blanks ++ text)))

/-- The texts that write the further branches of a conditional. -/
inductive WritesBranches : List Case → Option (List Piece) → List Char → Prop
  | none : WritesBranches [] none []
  | otherwise {spelled : List Char} (contents : List Piece) : Text.Spells ['e', 'l', 's', 'e'] spelled →
      WritesBranches [] (some contents) (Text.braced spelled ++ written contents)
  | case {c : Case} {more : List Case} {otherwise : Option (List Piece)} {tag text : List Char} :
      WritesTag ['e', 'l', 's', 'e', 'i', 'f'] c.test.condition tag → WritesBranches more otherwise text →
      WritesBranches (c :: more) otherwise (tag ++ (written c.contents ++ text))

/-- The texts that write a node. -/
inductive WritesNode : Node → List Char → Prop
  | piece (piece : Piece) : WritesNode (.piece piece) piece.written
  | conditional {choice : Choice} {tag text spelled : List Char} :
      WritesTag ['i', 'f'] choice.first.test.condition tag → WritesBranches choice.more choice.otherwise text →
      Text.Spells ['e', 'n', 'd', 'i', 'f'] spelled →
      WritesNode (.conditional choice) (tag ++ (written choice.first.contents ++ text ++ Text.braced spelled))

/-- The texts that write a block. -/
inductive WritesBlock : List Node → List Char → Prop
  | nil : WritesBlock [] []
  | cons {node : Node} {nodes : List Node} {text rest : List Char} : WritesNode node text → WritesBlock nodes rest →
      WritesBlock (node :: nodes) (text ++ rest)

/-! ## Evaluation -/

/-- What a piece shows of a record: the text of the value of its key, nothing being empty, or itself if the record
lacks the key. -/
def Piece.eval (record : Record) : Piece → List Char
  | .text plain => plain.chars
  | .placeholder key =>
    match Record.get? record key.name with
    | none => ['{', '{'] ++ key.name.toList ++ ['}', '}']
    | some .null => []
    | some value => value.toText.toList

/-- What some pieces show of a record. -/
def eval (record : Record) (pieces : List Piece) : List Char := pieces.flatMap (Piece.eval record)

/-- The contents that a record selects, and the condition that selected them. -/
def select (record : Record) (otherwise : Option (List Piece)) : List Case → List Piece × Option Condition
  | [] => (otherwise.getD [], none)
  | c :: more =>
    if c.test.condition.holds record then (c.contents, some c.test.condition) else select record otherwise more

/-- What a node shows of a record, and the limit after it when there is one before it: a number that the selecting
condition compares with replaces it. -/
def Node.eval (record : Record) (limit : Number) : Node → List Char × Number
  | .piece p => (p.eval record, limit)
  | .conditional choice =>
    let (contents, selected) := select record choice.otherwise (choice.first :: choice.more)
    (Tree.eval record contents, (selected.bind Condition.limit?).getD limit)

/-- What a block shows of a record, and the limit after it when there is one before it. -/
def evalBlock (record : Record) : Number → List Node → List Char × Number
  | limit, [] => ([], limit)
  | limit, node :: nodes =>
    let (text, limit) := node.eval record limit
    let (rest, limit) := evalBlock record limit nodes
    (text ++ rest, limit)

end FrontPage.Tree
