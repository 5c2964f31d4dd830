import FrontPage.Value

/-!
# Writing values as JSON

Values are written on one line, with a blank after every comma and colon. Text is pure ASCII: every other character
is escaped by its UTF-16 units. The floating-point values that JSON lacks are written `NaN`, `Infinity` and
`-Infinity`. `writeLines` writes a value with a line for every item and field, further inside the deeper it stands, and
characters beyond ASCII as they are.
-/

namespace FrontPage.Json

/-- Four hexadecimal digits of a number below 65536, behind a backslash and a u. -/
def unitEscape (n : Nat) : List Char :=
  ['\\', 'u', Nat.digitChar (n / 4096 % 16), Nat.digitChar (n / 256 % 16), Nat.digitChar (n / 16 % 16),
    Nat.digitChar (n % 16)]

/-- A character of a text in quotes, escaped beyond ASCII or only where it must be. -/
def escapeChar (asciiOnly : Bool) (c : Char) : List Char :=
  let n := c.toNat
  if c = '"' then ['\\', '"']
  else if c = '\\' then ['\\', '\\']
  else if c = '\n' then ['\\', 'n']
  else if c = '\r' then ['\\', 'r']
  else if c = '\t' then ['\\', 't']
  else if n = 8 then ['\\', 'b']
  else if n = 12 then ['\\', 'f']
  else if 32 ≤ n && (n ≤ 126 || !asciiOnly) then [c]
  else if n < 0x10000 then unitEscape n
  else unitEscape (0xD800 + (n - 0x10000) / 0x400) ++ unitEscape (0xDC00 + (n - 0x10000) % 0x400)

/-- A text in quotes. -/
def writeText (asciiOnly : Bool) (s : String) : String :=
  String.ofList ('"' :: (s.toList.flatMap (escapeChar asciiOnly) ++ ['"']))

/-- A floating-point number. -/
def writeFloat : Binary64 → String
  | .nan => "NaN"
  | .infinite true => "-Infinity"
  | .infinite false => "Infinity"
  | x => x.text

mutual

/-- A value on one line, escaped beyond ASCII or only where it must be. -/
def writeValue (asciiOnly : Bool) : Value → String
  | .null => "null"
  | .bool true => "true"
  | .bool false => "false"
  | .number (.int n) => toString n
  | .number (.float x) => writeFloat x
  | .text s => writeText asciiOnly s
  | .list items => "[" ++ ", ".intercalate (writeItems asciiOnly items) ++ "]"
  | .record fields => "\x7b" ++ ", ".intercalate (writeFields asciiOnly fields) ++ "\x7d"

/-- The items of a list. -/
def writeItems (asciiOnly : Bool) : List Value → List String
  | [] => []
  | item :: rest => writeValue asciiOnly item :: writeItems asciiOnly rest

/-- The fields of a record. -/
def writeFields (asciiOnly : Bool) : List (String × Value) → List String
  | [] => []
  | (name, value) :: rest =>
    (writeText asciiOnly name ++ ": " ++ writeValue asciiOnly value) :: writeFields asciiOnly rest

end

/-- A value on one line, in ASCII. -/
def write (value : Value) : String := writeValue true value

/-- The beginning of a line that is some levels inside. -/
def lineStart (depth : Nat) : String := "\n" ++ String.ofList (List.replicate (2 * depth) ' ')

/-- Lines some levels inside, between an opening and a closing mark. -/
def writeBlock (depth : Nat) (opening closing : String) (lines : List String) : String :=
  if lines.isEmpty then opening ++ closing
  else
    let start := lineStart (depth + 1)
    opening ++ start ++ ("," ++ start).intercalate lines ++ lineStart depth ++ closing

mutual

/-- A value that stands some levels inside, with a line for every item and field. -/
def writeLines (depth : Nat) : Value → String
  | .list items => writeBlock depth "[" "]" (itemLines (depth + 1) items)
  | .record fields => writeBlock depth "\x7b" "\x7d" (fieldLines (depth + 1) fields)
  | value => writeValue false value

/-- The items of a list that stand some levels inside. -/
def itemLines (depth : Nat) : List Value → List String
  | [] => []
  | item :: rest => writeLines depth item :: itemLines depth rest

/-- The fields of a record that stand some levels inside. -/
def fieldLines (depth : Nat) : List (String × Value) → List String
  | [] => []
  | (name, value) :: rest => (writeText false name ++ ": " ++ writeLines depth value) :: fieldLines depth rest

end

end FrontPage.Json
