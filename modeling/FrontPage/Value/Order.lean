import FrontPage.Value.Numeral
import FrontPage.Value.Text

/-!
# Comparing values

Two values that both stand for numbers compare as numbers, any others by their texts, code point by code point
(`Value.compareWith`). What is not a number comes before everything it is compared with as a number.
-/

namespace FrontPage

/-- The order of two numbers; a comparison with what is not a number comes out as smaller. -/
def Number.compareAny (a b : Number) : Ordering := (a.compare? b).getD .lt

/-- The order of two values: as numbers when both stand for one, otherwise as texts. -/
def Value.compareWith (a b : Value) : Ordering :=
  match a.toNumber?, b.toNumber? with
  | some m, some n => m.compareAny n
  | _, _ => Ord.compare a.toTextOrEmpty b.toTextOrEmpty

end FrontPage
