/-!
# Character properties as ranges of code points

A Unicode property is a list of closed ranges of code points; `CodeRange.covers` looks a character up. All property
tables are of Unicode 14.
-/

namespace FrontPage.Text

/-- A closed range of code points, first and last. -/
abbrev CodeRange := Nat × Nat

/-- The character lies in one of the ranges. -/
def CodeRange.covers (ranges : List CodeRange) (c : Char) : Bool :=
  ranges.any fun r => r.1 ≤ c.toNat && c.toNat ≤ r.2

end FrontPage.Text
