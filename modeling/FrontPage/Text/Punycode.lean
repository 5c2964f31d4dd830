import FrontPage.Text.Blank

/-!
# Punycode

Punycode writes a text in letters, digits and hyphens: first the ASCII characters of the text and a hyphen, then, for
each of the other characters in the order of their code points, how far it is from the one before, counted in code
points and places. The distances are numbers of digits with the lowest first; how many values a digit has before it ends
its number adapts to the distances so far (`threshold`, `adapt`). `decode` finds no text where a number has no end or a
code point is no character.
-/

namespace FrontPage.Text.Punycode

/-- The digit of a value below 36: the small letters and then the decimal digits. -/
def digit (n : Nat) : Char := Char.ofNat (if n < 26 then 97 + n else 22 + n)

/-- The value of a digit; capitals are as good as small letters. -/
def digitValue? (c : Char) : Option Nat :=
  if 'a' ≤ c && c ≤ 'z' then some (c.toNat - 97)
  else if 'A' ≤ c && c ≤ 'Z' then some (c.toNat - 65)
  else if c.isDigit then some (c.toNat - 22)
  else none

/-- The value from which on the digit at a place does not end its number. -/
def threshold (place bias : Nat) : Nat := min 26 (max 1 (36 * (place + 1) - bias))

/-- Zero ends a number at every place. -/
theorem one_le_threshold (place bias : Nat) : 1 ≤ threshold place bias := by
  unfold threshold
  omega

/-- Divides a distance by 35 until it is at most 455, and adds 36 to a bias each time. -/
def reduce (distance bias : Nat) : Nat × Nat :=
  if 455 < distance then reduce (distance / 35) (bias + 36) else (distance, bias)
termination_by distance
decreasing_by omega

/-- The bias after a distance, when the text has so many characters. -/
def adapt (distance : Nat) (isFirst : Bool) (length : Nat) : Nat :=
  let distance := if isFirst then distance / 700 else distance / 2
  let (distance, bias) := reduce (distance + distance / length) 0
  bias + 36 * distance / (distance + 38)

/-- The digits of a distance from a place on. -/
def digitsFrom (bias place n : Nat) : List Char :=
  let t := threshold place bias
  if n < t then [digit n] else digit (t + (n - t) % (36 - t)) :: digitsFrom bias (place + 1) ((n - t) / (36 - t))
termination_by n
decreasing_by
  have h := one_le_threshold place bias
  exact Nat.lt_of_le_of_lt (Nat.div_le_self _ _) (by omega)

/-- What was written so far: the digits, the distance since the last character, the bias, and how many characters. -/
structure Progress where
  digits : List Char := []
  distance : Nat := 0
  bias : Nat := 72
  isFirst : Bool := true
  length : Nat

/-- Passes a character of the text while characters of a code point are written. -/
def Progress.pass (code : Nat) (progress : Progress) (c : Char) : Progress :=
  if c.toNat < code then { progress with distance := progress.distance + 1 }
  else if c.toNat = code then
    { digits := progress.digits ++ digitsFrom progress.bias 0 progress.distance
      distance := 0
      bias := adapt progress.distance progress.isFirst (progress.length + 1)
      isFirst := false
      length := progress.length + 1 }
  else progress

/-- Writes the characters of the code points one after another, all of them from some code point on. -/
def writeCodes (text : List Char) (progress : Progress) : Nat → List Nat → Progress
  | _, [] => progress
  | start, code :: rest =>
    let distance := progress.distance + (code - start) * (progress.length + 1)
    let passed := text.foldl (Progress.pass code) { progress with distance }
    writeCodes text { passed with distance := passed.distance + 1 } (code + 1) rest

/-- The Punycode of a text. -/
def encode (text : List Char) : List Char :=
  let (basic, others) := text.partition (·.toNat < 128)
  let codes := (others.map Char.toNat).eraseDups.mergeSort
  basic ++ (if basic.isEmpty then [] else ['-']) ++ (writeCodes text { length := basic.length } 128 codes).digits

/-- What was read so far: the text, the code point and the place of the last character, the bias, and of an unfinished
number its value, the weight of its next digit and the place of that digit. -/
structure Reading where
  text : List Char
  code : Nat := 128
  next : Nat := 0
  bias : Nat := 72
  isFirst : Bool := true
  value : Nat := 0
  weight : Nat := 1
  place : Nat := 0

/-- The code point is that of a character. -/
def isCharacter (code : Nat) : Bool := code < 0xD800 || (0xE000 ≤ code && code < 0x110000)

/-- Puts the character at a distance into the text. -/
def Reading.insert? (reading : Reading) (distance : Nat) : Option Reading :=
  let length := reading.text.length + 1
  let code := reading.code + (reading.next + distance) / length
  let place := (reading.next + distance) % length
  if isCharacter code then
    some
      { text := reading.text.take place ++ Char.ofNat code :: reading.text.drop place
        code
        next := place + 1
        bias := adapt distance reading.isFirst length
        isFirst := false }
  else none

/-- Reads a digit. -/
def Reading.read? (reading : Reading) (c : Char) : Option Reading := do
  let n ← digitValue? c
  let t := threshold reading.place reading.bias
  let value := reading.value + n * reading.weight
  if n < t then reading.insert? value
  else some { reading with value, weight := reading.weight * (36 - t), place := reading.place + 1 }

/-- The parts of a text in front of and behind its last hyphen; without one, all of it is behind. -/
def splitLast (text : List Char) : List Char × List Char :=
  let behind := (text.reverse.takeWhile (· ≠ '-')).reverse
  ((text.take (text.length - behind.length)).dropLast, behind)

/-- The text that is written in Punycode. -/
def decode (code : List Char) : Option (List Char) := do
  let (basic, digits) := splitLast code
  let reading ← digits.foldlM Reading.read? { text := basic }
  if reading.place = 0 then some reading.text else none

end FrontPage.Text.Punycode
