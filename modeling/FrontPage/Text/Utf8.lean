/-!
# Lenient UTF-8

`decodeUtf8` reads bytes as UTF-8 and puts the replacement character in the place of every maximal part of a sequence
that is no character. Bytes that are the UTF-8 of a text give that text back.
-/

namespace FrontPage.Text

/-- How many bytes follow the first byte of a sequence, the bits of the character in it, and the range of the second
byte; none if no sequence begins with the byte. -/
def sequenceStart? (b : Nat) : Option (Nat × Nat × Nat × Nat) :=
  if b < 0x80 then some (0, b, 0, 0)
  else if b < 0xC2 then none
  else if b < 0xE0 then some (1, b - 0xC0, 0x80, 0xBF)
  else if b < 0xF0 then
    some (2, b - 0xE0, if b = 0xE0 then 0xA0 else 0x80, if b = 0xED then 0x9F else 0xBF)
  else if b < 0xF5 then
    some (3, b - 0xF0, if b = 0xF0 then 0x90 else 0x80, if b = 0xF4 then 0x8F else 0xBF)
  else none

/-- Reads bytes in the middle of a sequence: how many bytes it still needs, its bits so far, and the range of the next
byte. -/
def decodeFrom (needed bits low high : Nat) : List Nat → List Char
  | [] => if needed = 0 then [] else ['\ufffd']
  | b :: rest =>
    if needed = 0 then
      match sequenceStart? b with
      | none => '\ufffd' :: decodeFrom 0 0 0 0 rest
      | some (0, c, _, _) => Char.ofNat c :: decodeFrom 0 0 0 0 rest
      | some (n, c, l, h) => decodeFrom n c l h rest
    else if low ≤ b && b ≤ high then
      let bits := bits * 64 + (b - 0x80)
      if needed = 1 then Char.ofNat bits :: decodeFrom 0 0 0 0 rest else decodeFrom (needed - 1) bits 0x80 0xBF rest
    else
      match sequenceStart? b with
      | none => '\ufffd' :: '\ufffd' :: decodeFrom 0 0 0 0 rest
      | some (0, c, _, _) => '\ufffd' :: Char.ofNat c :: decodeFrom 0 0 0 0 rest
      | some (n, c, l, h) => '\ufffd' :: decodeFrom n c l h rest

/-- The text that bytes spell in UTF-8. -/
def decodeUtf8 (bytes : List Nat) : String := String.ofList (decodeFrom 0 0 0 0 bytes)

end FrontPage.Text
