import FrontPage.Template.Condition

/-!
# Conditionals of a template

A conditional runs from an If tag to the next EndIf tag; keywords are written in any letter case. Inside it, ElseIf tags
with conditions and one Else tag open further branches (`branches`); what follows the first Else tag is its content,
tags included. Of the branches a record gets the first whose condition it passes (`Conditional.choose`). The number in
the condition of a chosen branch is handed on, and the last one of a block counts (`resolveBlock`).
-/

namespace FrontPage

/-- An If tag with the text up to the EndIf tag. -/
structure Conditional where
  condition : Condition
  body : List Char
  deriving DecidableEq, Repr

/-- A tag that opens a further branch: its own text, and its condition unless it is an Else tag. -/
structure BranchTag where
  source : List Char
  condition : Option Condition
  deriving DecidableEq, Repr

/-- A branch of a conditional: the tag that opened it, if it is not the first, its condition, and its content. -/
structure Branch where
  tag : List Char
  condition : Option Condition
  content : List Char
  deriving DecidableEq, Repr

namespace Conditional

/-- An EndIf tag, and the text behind it. -/
def readEnd? : Text.Reader Unit := fun text => do
  let rest ← Text.after? ['{', '{'] text
  let rest ← Text.afterKeyword? ['e', 'n', 'd', 'i', 'f'] rest
  let rest ← Text.after? ['}', '}'] rest
  pure ((), rest)

/-- The text up to the first EndIf tag, and the text behind that. -/
def toEnd? : List Char → Option (List Char × List Char)
  | [] => none
  | c :: text =>
    match readEnd? (c :: text) with
    | some ((), rest) => some ([], rest)
    | none => (toEnd? text).map fun parts => (c :: parts.1, parts.2)

/-- A conditional at the beginning of a text. -/
def read? : Text.Reader Conditional := fun text => do
  let rest ← Text.after? ['{', '{'] text
  let rest ← Text.afterKeyword? ['i', 'f'] rest
  let (condition, rest) ← Condition.read? rest
  let (body, rest) ← toEnd? rest
  pure (⟨condition, body⟩, rest)

/-- An ElseIf or Else tag at the beginning of a text. -/
def readTag? : Text.Reader BranchTag := fun text => do
  let rest ← Text.after? ['{', '{'] text
  let rest ← Text.afterKeyword? ['e', 'l', 's', 'e'] rest
  match (Text.afterKeyword? ['i', 'f'] rest).bind Condition.read? with
  | some (condition, rest) => pure (⟨text.take (text.length - rest.length), some condition⟩, rest)
  | none =>
    let rest ← Text.after? ['}', '}'] rest
    pure (⟨text.take (text.length - rest.length), none⟩, rest)

/-- The text that characters and tags were scanned from. -/
def sourceText (marks : List (Char ⊕ BranchTag)) : List Char :=
  marks.flatMap fun
    | .inl c => [c]
    | .inr tag => tag.source

/-- The branches of a scanned body whose first branch was opened by a given tag. -/
def branchesFrom (tag : List Char) (condition : Option Condition) : List (Char ⊕ BranchTag) → List Branch
  | [] => [⟨tag, condition, []⟩]
  | .inl c :: rest =>
    match branchesFrom tag condition rest with
    | [] => []
    | branch :: others => { branch with content := c :: branch.content } :: others
  | .inr ⟨source, some next⟩ :: rest => ⟨tag, condition, []⟩ :: branchesFrom source (some next) rest
  | .inr ⟨source, none⟩ :: rest => [⟨tag, condition, []⟩, ⟨source, none, sourceText rest⟩]

/-- The branches of a conditional, in order. -/
def branches (c : Conditional) : List Branch := branchesFrom [] (some c.condition) (Text.scan readTag? c.body)

/-- The branch that a record gets. -/
def choose (record : Record) (c : Conditional) : Option Branch :=
  c.branches.find? fun branch => (branch.condition.map (·.holds record)).getD true

end Conditional

/-- What a part of a block leaves: a text, and the last number in the condition of a chosen branch. -/
structure Resolved where
  text : List Char
  limit : Option Number
  deriving DecidableEq, Repr

/-- What a conditional leaves for a record. -/
def Conditional.resolve (record : Record) (c : Conditional) : Resolved :=
  match c.choose record with
  | some branch => ⟨branch.content, branch.condition.bind Condition.limit?⟩
  | none => ⟨[], none⟩

/-- The parts of a scanned block after one another, the last number counting. -/
def resolveMarks (record : Record) : List (Char ⊕ Conditional) → Resolved
  | [] => ⟨[], none⟩
  | .inl c :: rest =>
    let later := resolveMarks record rest
    ⟨c :: later.text, later.limit⟩
  | .inr conditional :: rest =>
    let first := conditional.resolve record
    let later := resolveMarks record rest
    ⟨first.text ++ later.text, later.limit.orElse fun _ => first.limit⟩

/-- What a block leaves for a record once its conditionals are decided. -/
def resolveBlock (record : Record) (block : List Char) : Resolved :=
  resolveMarks record (Text.scan Conditional.read? block)

end FrontPage
