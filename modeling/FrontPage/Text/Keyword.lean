/-!
# Words of a fixed spelling

`begins` and `ends` say whether a text begins or ends with another. `after? word text` is what follows `word` at the
beginning of a text; `afterKeyword? word text` is the same in any letter case. Besides its two ASCII cases, `i` may be
written as the dotted capital or the dotless small letter, and `s` as the long s.
-/

namespace FrontPage.Text

/-- The text begins with another. -/
def begins (start text : String) : Bool := start.toList.isPrefixOf text.toList

/-- The text ends with another. -/
def ends (finish text : String) : Bool := finish.toList.isSuffixOf text.toList

/-- What follows a word that begins the text. -/
def after? : List Char → List Char → Option (List Char)
  | [], text => some text
  | _ :: _, [] => none
  | w :: word, c :: text => if w = c then after? word text else none

/-- A word begins the texts that are it with something behind it. -/
theorem after?_eq_some_iff {word text rest : List Char} : after? word text = some rest ↔ text = word ++ rest := by
  induction word generalizing text with
  | nil => simp [after?]
  | cons w word ih =>
    cases text with
    | nil => simp [after?]
    | cons c text =>
      by_cases h : w = c
      · simp [after?, h, ih]
      · simp only [after?, h, if_false, List.cons_append, List.cons.injEq]
        constructor
        · intro h'
          cases h'
        · exact fun h' => absurd h'.1.symm h

/-- The character stands for a small ASCII letter in one of its cases. -/
def standsFor (letter c : Char) : Bool :=
  c.toLower == letter || (letter == 'i' && (c == 'İ' || c == 'ı')) || (letter == 's' && c == 'ſ')

/-- What follows a word, given in small letters, that begins the text in any letter case. -/
def afterKeyword? : List Char → List Char → Option (List Char)
  | [], text => some text
  | _ :: _, [] => none
  | w :: word, c :: text => if standsFor w c then afterKeyword? word text else none

end FrontPage.Text
