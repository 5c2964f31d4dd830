import FrontPage.Text.Digit
import FrontPage.Text.Keyword
import FrontPage.Value

/-!
# Reading JSON

`Json.read` reads a text that is one JSON value with blanks around it, or says what is wrong with the text and where
(`ReadError`). Beyond the standard it takes `NaN`, `Infinity` and `-Infinity`. A number with a point or an exponent is a
binary64 number, any other an integer. Of fields with one name the last counts, in the place of the first. How many
lists and records may stand inside each other is for the caller to say.
-/

namespace FrontPage.Json

/-- What is wrong with a text that cannot be read. -/
inductive Flaw where
  | valueMissing
  | nameMissing
  | colonMissing
  | commaMissing
  | openText
  | controlCharacter
  | unknownEscape
  | invalidUnit
  | moreText
  | byteOrderMark
  /-- An integer has more digits than are read. -/
  | tooManyDigits (count : Nat)
  /-- Lists or records stand inside each other more often than is read; the last of them is a list or a record. -/
  | tooDeep (inList : Bool)
  deriving DecidableEq, Repr

/-- What is wrong with a text, and the place: the line and the column from one on, and the position from zero on. -/
structure ReadError where
  flaw : Flaw
  line : Nat
  column : Nat
  position : Nat
  deriving DecidableEq, Repr

/-- The most digits of an integer. -/
def mostDigits : Nat := 4300

/-- The text that names a flaw. -/
def Flaw.message : Flaw → String
  | valueMissing => "Expecting value"
  | nameMissing => "Expecting property name enclosed in double quotes"
  | colonMissing => "Expecting ':' delimiter"
  | commaMissing => "Expecting ',' delimiter"
  | openText => "Unterminated string starting at"
  | controlCharacter => "Invalid control character at"
  | unknownEscape => "Invalid \\escape"
  | invalidUnit => "Invalid \\uXXXX escape"
  | moreText => "Extra data"
  | byteOrderMark => "Unexpected UTF-8 BOM (decode using utf-8-sig)"
  | tooManyDigits count =>
    "Exceeds the limit (" ++ toString mostDigits ++ " digits) for integer string conversion: value has "
      ++ toString count ++ " digits; use sys.set_int_max_str_digits() to increase the limit"
  | tooDeep inList =>
    "maximum recursion depth exceeded while decoding a JSON " ++ (if inList then "array" else "object")
      ++ " from a unicode string"

/-- The text that reports a flaw and its place; limits are reported without one. -/
def ReadError.message (error : ReadError) : String :=
  match error.flaw with
  | .tooManyDigits count => (Flaw.tooManyDigits count).message
  | .tooDeep inList => (Flaw.tooDeep inList).message
  | flaw =>
    flaw.message ++ ": line " ++ toString error.line ++ " column " ++ toString error.column ++ " (char "
      ++ toString error.position ++ ")"

/-- A flaw of a text in front of some rest of it. -/
def ReadError.before (text rest : List Char) (flaw : Flaw) : ReadError :=
  let read := text.take (text.length - rest.length)
  ⟨flaw, read.count '\n' + 1, (read.reverse.takeWhile (· ≠ '\n')).length + 1, read.length⟩

/-- A reader of the beginning of a text. It gives what it read and the text behind it, or a flaw and the text from the
flaw on. -/
abbrev Parser (α : Type) := List Char → Except (Flaw × List Char) (α × List Char)

/-- The blanks of JSON. -/
def isBlank (c : Char) : Bool := c == ' ' || c == '\t' || c == '\n' || c == '\r'

/-- The text behind its leading blanks. -/
def skipBlanks (text : List Char) : List Char := text.dropWhile isBlank

/-- Four hexadecimal digits, which are not the end of the text. -/
def readUnit? : List Char → Option (Nat × List Char)
  | a :: b :: c :: d :: e :: rest => do
    let a ← Text.hexValue? a
    let b ← Text.hexValue? b
    let c ← Text.hexValue? c
    let d ← Text.hexValue? d
    pure (a * 4096 + b * 256 + c * 16 + d, e :: rest)
  | _ => none

/-- The second unit of a surrogate pair, when it follows. -/
def readLowUnit? : List Char → Option (Nat × List Char)
  | '\\' :: 'u' :: rest => do
    let (low, rest) ← readUnit? rest
    if 0xDC00 ≤ low && low < 0xE000 then pure (low, rest) else none
  | _ => none

/-- The character of a unit and of the one behind it if the two are a pair. Half a pair is no character that a text can
have: each of them becomes the same replacement character, so texts that differ in such halves only are read as one
text, which can be encoded. -/
def joinUnits (unit : Nat) (rest : List Char) : Char × List Char :=
  if 0xD800 ≤ unit && unit < 0xDC00 then
    match readLowUnit? rest with
    | some (low, rest) => (Char.ofNat (0x10000 + (unit - 0xD800) * 0x400 + (low - 0xDC00)), rest)
    | none => ('\ufffd', rest)
  else if 0xDC00 ≤ unit && unit < 0xE000 then ('\ufffd', rest)
  else (Char.ofNat unit, rest)

/-- The characters that stand for others behind a backslash. -/
def escapes : List (Char × Char) :=
  [('"', '"'), ('\\', '\\'), ('/', '/'), ('b', '\x08'), ('f', '\x0c'), ('n', '\n'), ('r', '\r'), ('t', '\t')]

/-- The character of an escape, the text beginning behind the backslash with some character. -/
def readEscape (c : Char) (rest : List Char) : Except (Flaw × List Char) (Char × List Char) :=
  if c = 'u' then
    match readUnit? rest with
    | some (unit, rest) => .ok (joinUnits unit rest)
    | none => .error (.invalidUnit, c :: rest)
  else
    match escapes.lookup c with
    | some meant => .ok (meant, rest)
    | none => .error (.unknownEscape, '\\' :: c :: rest)

/-- The characters of a text up to its closing quote, behind those that were read, the last of them first. The text
from its opening quote on tells where one without a closing quote begins. The fuel bounds how many characters there
are. -/
def readCharacters (opening : List Char) : Nat → List Char → List Char → Except (Flaw × List Char) (String × List Char)
  | _, read, '"' :: rest => .ok (String.ofList read.reverse, rest)
  | _, _, [] => .error (.openText, opening)
  | 0, _, _ :: _ => .error (.openText, opening)
  | fuel + 1, read, '\\' :: rest =>
    match rest with
    | [] => .error (.openText, opening)
    | c :: behind =>
      match readEscape c behind with
      | .error flaw => .error flaw
      | .ok (c, rest) => readCharacters opening fuel (c :: read) rest
  | fuel + 1, read, c :: rest =>
    if c.toNat < 32 then .error (.controlCharacter, c :: rest) else readCharacters opening fuel (c :: read) rest

/-- A text behind its opening quote. -/
def readText : Parser String := fun text => readCharacters ('"' :: text) text.length [] text

/-- The number that ASCII digits write. -/
def digitsValue (digits : List Char) : Nat := digits.foldl (fun n c => 10 * n + (c.toNat - 48)) 0

/-- A point with at least one digit behind it. -/
def readFraction : List Char → List Char × List Char
  | '.' :: rest =>
    let digits := rest.takeWhile Char.isDigit
    if digits.isEmpty then ([], '.' :: rest) else (digits, rest.dropWhile Char.isDigit)
  | text => ([], text)

/-- An E with a sign and at least one digit behind it. -/
def readExponent : List Char → Option Int × List Char
  | [] => (none, [])
  | c :: rest =>
    if c = 'e' || c = 'E' then
      let (negative, unsigned) :=
        match rest with
        | '-' :: r => (true, r)
        | '+' :: r => (false, r)
        | r => (false, r)
      let digits := unsigned.takeWhile Char.isDigit
      if digits.isEmpty then (none, c :: rest)
      else
        let n : Int := digitsValue digits
        (some (if negative then -n else n), unsigned.dropWhile Char.isDigit)
    else (none, c :: rest)

/-- A number whose sign has been read; the text with the sign tells where one without digits begins. -/
def readNumber (negative : Bool) (signed : List Char) : Parser Value := fun text =>
  let digits := text.takeWhile Char.isDigit
  let (whole, rest) :=
    match digits with
    | '0' :: _ => (['0'], text.drop 1)
    | _ => (digits, text.dropWhile Char.isDigit)
  if whole.isEmpty then .error (.valueMissing, signed)
  else
    let (fraction, rest) := readFraction rest
    let (exponent, rest) := readExponent rest
    if fraction.isEmpty && exponent.isNone then
      if mostDigits < whole.length then .error (.tooManyDigits whole.length, signed)
      else
        let n : Int := digitsValue whole
        .ok (.int (if negative then -n else n), rest)
    else
      let x := Binary64.ofDecimal negative (digitsValue (whole ++ fraction)) (exponent.getD 0 - fraction.length)
      .ok (.number (.float x), rest)

/-- The values that are written as words. -/
def words : List (String × Value) :=
  [ ("null", .null),
    ("true", .bool true),
    ("false", .bool false),
    ("NaN", .number (.float .nan)),
    ("Infinity", .number (.float (.infinite false))) ]

/-- A value that is neither a list nor a record, the text beginning with it. -/
def readScalar : Parser Value
  | '"' :: rest => (readText rest).map fun (s, rest) => (.text s, rest)
  | '-' :: rest =>
    match Text.after? "Infinity".toList rest with
    | some rest => .ok (.number (.float (.infinite true)), rest)
    | none => readNumber true ('-' :: rest) rest
  | text =>
    match words.findSome? fun (word, value) => (Text.after? word.toList text).map fun rest => (value, rest) with
    | some found => .ok found
    | none => readNumber false text text

mutual

/-- A value at the beginning of a text, which may contain some levels of lists and records. The fuel bounds how many
parts it has. -/
def readValue (fuel levels : Nat) (text : List Char) : Except (Flaw × List Char) (Value × List Char) :=
  match fuel, levels, text with
  | 0, _, text => .error (.valueMissing, text)
  | _, 0, '[' :: rest => .error (.tooDeep true, '[' :: rest)
  | _, 0, '{' :: rest => .error (.tooDeep false, '{' :: rest)
  | fuel + 1, levels + 1, '[' :: rest =>
    match skipBlanks rest with
    | ']' :: rest => .ok (.list [], rest)
    | rest => readItems fuel levels [] rest
  | fuel + 1, levels + 1, '{' :: rest =>
    match skipBlanks rest with
    | '}' :: rest => .ok (.record [], rest)
    | rest => readFields fuel levels [] rest
  | _, _, text => readScalar text

/-- A list up to its closing bracket, of which some items were read, the last of them first. -/
def readItems (fuel levels : Nat) (items : List Value) (text : List Char) :
    Except (Flaw × List Char) (Value × List Char) :=
  match fuel with
  | 0 => .error (.valueMissing, text)
  | fuel + 1 =>
    match readValue fuel levels text with
    | .error flaw => .error flaw
    | .ok (item, rest) =>
      match skipBlanks rest with
      | ']' :: rest => .ok (.list (item :: items).reverse, rest)
      | ',' :: rest => readItems fuel levels (item :: items) (skipBlanks rest)
      | rest => .error (.commaMissing, rest)

/-- A record up to its closing brace, of which some fields were read. -/
def readFields (fuel levels : Nat) (fields : Record) (text : List Char) :
    Except (Flaw × List Char) (Value × List Char) :=
  match fuel, text with
  | fuel + 1, '"' :: rest =>
    match readText rest with
    | .error flaw => .error flaw
    | .ok (name, rest) =>
      match skipBlanks rest with
      | ':' :: rest =>
        match readValue fuel levels (skipBlanks rest) with
        | .error flaw => .error flaw
        | .ok (value, rest) =>
          match skipBlanks rest with
          | '}' :: rest => .ok (.record (Record.set fields name value), rest)
          | ',' :: rest => readFields fuel levels (Record.set fields name value) (skipBlanks rest)
          | rest => .error (.commaMissing, rest)
      | rest => .error (.colonMissing, rest)
  | _, text => .error (.nameMissing, text)

end

/-- The value of a whole text with some levels of lists and records, or a flaw and the text from the flaw on. -/
def readWhole (levels : Nat) (text : List Char) : Except (Flaw × List Char) Value :=
  if text.head? = some '\ufeff' then .error (.byteOrderMark, text)
  else
    match readValue (2 * text.length + 2) levels (skipBlanks text) with
    | .error flaw => .error flaw
    | .ok (value, rest) =>
      match skipBlanks rest with
      | [] => .ok value
      | rest => .error (.moreText, rest)

/-- The value that a whole text writes with at most some levels of lists and records. -/
def read (levels : Nat) (text : String) : Except ReadError Value :=
  (readWhole levels text.toList).mapError fun (flaw, rest) => .before text.toList rest flaw

/-- The value that a whole text writes, if it writes one. -/
def read? (text : String) : Option Value := (read text.length text).toOption

end FrontPage.Json
