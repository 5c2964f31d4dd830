import FrontPage.Text.Blank
import FrontPage.Text.Digit
import FrontPage.Text.Utf8

/-!
# Percent encoding

A percent sign with two hexadecimal digits stands for a byte. `percentDecode` reads the bytes of a text as UTF-8;
`percentEncode` writes characters that are not let through as the bytes of their UTF-8.
-/

namespace FrontPage.Text

/-- The bytes of a character in UTF-8. -/
def utf8Bytes (c : Char) : List Nat := (String.singleton c).toUTF8.toList.map UInt8.toNat

/-- The bytes of a percent-encoded text. A percent sign without two hexadecimal digits stands for itself, and so does
one before the digits of a byte that is kept as it is written. -/
def percentBytes (keeps : Nat → Bool) : List Char → List Nat
  | [] => []
  | '%' :: a :: b :: rest =>
    match hexValue? a, hexValue? b with
    | some high, some low =>
      if keeps (16 * high + low) then 0x25 :: a.toNat :: b.toNat :: percentBytes keeps rest
      else (16 * high + low) :: percentBytes keeps rest
    | _, _ => 0x25 :: percentBytes keeps (a :: b :: rest)
  | c :: rest => utf8Bytes c ++ percentBytes keeps rest

/-- The text that a percent-encoded text stands for. -/
def percentDecode (text : List Char) : String := decodeUtf8 (percentBytes (fun _ => false) text)

/-- A hexadecimal digit of a value below 16, in capitals. -/
def hexCapital (n : Nat) : Char := Char.ofNat (if n < 10 then 48 + n else 55 + n)

/-- A text with percent signs for the bytes of the characters that are not let through. -/
def percentEncode (lets : Char → Bool) (text : List Char) : List Char :=
  text.flatMap fun c =>
    if lets c then [c] else (utf8Bytes c).flatMap fun b => ['%', hexCapital (b / 16), hexCapital (b % 16)]

end FrontPage.Text
