import FrontPage.Text.Utf8

/-!
# Encodings of documents

A document comes as bytes in UTF-8, UTF-16 or UTF-32. Since it begins with an ASCII character, the zeros among its
first bytes tell the encoding (`Encoding.ofBytes`). `decodeDocument` reads the bytes in that encoding; a UTF-8
document may begin with a byte order mark, which does not belong to it. Half a surrogate pair is read as the
replacement character.
-/

namespace FrontPage.Text

/-- The encodings of documents. -/
inductive Encoding where
  | utf8
  | utf16 (highFirst : Bool)
  | utf32 (highFirst : Bool)
  deriving DecidableEq, Repr

/-- The encoding that the first bytes of a document tell. -/
def Encoding.ofBytes : List Nat → Encoding
  | 0 :: 0 :: _ :: _ :: _ => .utf32 true
  | 0 :: _ :: _ :: _ :: _ => .utf16 true
  | _ :: 0 :: 0 :: 0 :: _ => .utf32 false
  | _ :: 0 :: _ :: _ :: _ => .utf16 false
  | [0, _] => .utf16 true
  | [_, 0] => .utf16 false
  | _ => .utf8

/-- The 16-bit units of bytes, if there is an even number of them. -/
def units16? (highFirst : Bool) : List Nat → Option (List Nat)
  | [] => some []
  | a :: b :: rest => (units16? highFirst rest).map ((if highFirst then 256 * a + b else 256 * b + a) :: ·)
  | [_] => none

/-- The 32-bit units of bytes, if their number is divisible by four. -/
def units32? (highFirst : Bool) : List Nat → Option (List Nat)
  | [] => some []
  | a :: b :: c :: d :: rest =>
    let unit := if highFirst then ((256 * a + b) * 256 + c) * 256 + d else ((256 * d + c) * 256 + b) * 256 + a
    (units32? highFirst rest).map (unit :: ·)
  | _ => none

/-- The unit is the first half of a surrogate pair. -/
def isHighSurrogate (unit : Nat) : Bool := 0xD800 ≤ unit && unit < 0xDC00

/-- The unit is the second half of a surrogate pair. -/
def isLowSurrogate (unit : Nat) : Bool := 0xDC00 ≤ unit && unit < 0xE000

/-- The character of a code point; a surrogate has none. -/
def ofCodePoint (n : Nat) : Char := if isHighSurrogate n || isLowSurrogate n then '\ufffd' else Char.ofNat n

/-- The characters of 16-bit units. -/
def ofUnits16 : List Nat → List Char
  | [] => []
  | high :: low :: rest =>
    if isHighSurrogate high && isLowSurrogate low then
      Char.ofNat (0x10000 + (high - 0xD800) * 0x400 + (low - 0xDC00)) :: ofUnits16 rest
    else ofCodePoint high :: ofUnits16 (low :: rest)
  | [unit] => [ofCodePoint unit]

/-- The characters of 32-bit units, if all of them are code points. -/
def ofUnits32? (units : List Nat) : Option (List Char) :=
  if units.all (· < 0x110000) then some (units.map ofCodePoint) else none

/-- The bytes without the byte order mark that they may begin with. -/
def withoutMark : List Nat → List Nat
  | 0xEF :: 0xBB :: 0xBF :: rest => rest
  | bytes => bytes

/-- The text that the bytes of a document spell in its encoding. -/
def decodeDocument (bytes : List Nat) : Option String :=
  match Encoding.ofBytes bytes with
  | .utf8 => some (decodeUtf8 (withoutMark bytes))
  | .utf16 highFirst => (units16? highFirst bytes).map fun units => String.ofList (ofUnits16 units)
  | .utf32 highFirst => ((units32? highFirst bytes).bind ofUnits32?).map String.ofList

end FrontPage.Text
