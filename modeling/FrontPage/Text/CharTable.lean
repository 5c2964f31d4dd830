import FrontPage.Text.Blank
import FrontPage.Text.Digit

/-!
# Tables of characters

A table says of some characters which characters stand for them. It is written in rows (`CharTable.ofRows`) of blocks
between semicolons. A block is the code point of a character, a colon, and what stands for that character and for
those behind it, one after another between blanks: code points joined by plus signs, a minus sign for nothing, or a
code point, a star and a number, which stand for so many characters in succession. All numbers are hexadecimal.
-/

namespace FrontPage.Text

/-- What stands for the characters from a code point on. -/
structure CharBlock where
  first : Nat
  images : List (List Char)

/-- What stands for some characters. -/
abbrev CharTable := List CharBlock

/-- The number that hexadecimal digits spell. -/
def hexNumber (digits : List Char) : Nat := digits.foldl (fun n c => 16 * n + (hexValue? c).getD 0) 0

/-- What an entry of a block says of one or more characters. -/
def CharBlock.imagesOf (entry : List Char) : List (List Char) :=
  match entry, splitFirst '*' entry with
  | ['-'], _ => [[]]
  | _, (codes, []) => [(pieces '+' codes).map fun code => Char.ofNat (hexNumber code)]
  | _, (code, count) => (List.range (hexNumber count)).map fun i => [Char.ofNat (hexNumber code + i)]

/-- The block that a text writes. -/
def CharBlock.ofText (text : List Char) : CharBlock :=
  let (first, entries) := splitFirst ':' text
  ⟨hexNumber first, (pieces ' ' entries).flatMap imagesOf⟩

namespace CharTable

/-- The table that rows of blocks write. -/
def ofRows (rows : List String) : CharTable := rows.flatMap fun row => (pieces ';' row.toList).map CharBlock.ofText

/-- What stands for a character, if the table has it. -/
def get? (table : CharTable) (c : Char) : Option (List Char) :=
  table.findSome? fun block => if block.first ≤ c.toNat then block.images[c.toNat - block.first]? else none

end CharTable

end FrontPage.Text
