import FrontPage.Host.Label
import FrontPage.Host.Literal
import FrontPage.Json.Reader
import FrontPage.Text.Percent

/-!
# Authorities

An authority names a host, perhaps with a user and a password in front of an at sign, and with a number behind a
colon. It is sent in ASCII (`Authority.sent`) and shown with the characters that its name and its user stand for
(`Authority.shown`). `isAuthority` says which texts can be one at all.
-/

namespace FrontPage.Host

open FrontPage.Text

/-- Why an authority cannot be sent. -/
inductive AuthorityError where
  /-- What stands behind the colon of the host is no number below 65536. -/
  | invalidNumber
  /-- A label of the name cannot be written in ASCII, or what is written so is no label. -/
  | invalidLabel
  deriving DecidableEq, Repr

/-- A host with who asks for it. What is not given is empty. -/
structure Authority where
  user : List Char
  password : List Char
  name : List Char
  number : List Char

/-- The points that part the labels of a name. -/
def isPoint (c : Char) : Bool := ['.', '\u3002', '\uff0e', '\uff61'].contains c

/-- The labels of a name in ASCII have from 1 to 63 characters, but the last may be empty. -/
def labelsFit (name : List Char) : Bool :=
  let labels := pieces '.' name
  labels.all (·.length ≤ 63) && labels.dropLast.all fun label => !label.isEmpty

/-- Labels with points between them. -/
def joinLabels (labels : List (List Char)) : List Char := ['.'].intercalate labels

/-- A name written in ASCII. -/
def encodeName (name : List Char) : Option (List Char) :=
  if Label.isAscii name then if labelsFit name then some name else none
  else
    let labels := pieces '.' (name.map fun c => if isPoint c then '.' else c)
    if labels.getLast? = some [] then (labels.dropLast.mapM Label.encode).map fun labels => joinLabels (labels ++ [[]])
    else (labels.mapM Label.encode).map joinLabels

/-- The name that is written in ASCII. -/
def decodeName (name : List Char) : Option (List Char) := ((pieces '.' name).mapM Label.decode).map joinLabels

/-- The parts of a text in front of and behind the last at sign; without one, all of it is behind. -/
def splitUser (text : List Char) : List Char × List Char :=
  let behind := (text.reverse.takeWhile (· ≠ '@')).reverse
  ((text.take (text.length - behind.length)).dropLast, behind)

/-- The name of a host with or without brackets, and what is behind the name. -/
def splitName (host : List Char) : List Char × List Char :=
  if host.contains '[' then splitFirst ']' (splitFirst '[' host).2
  else (host.takeWhile (· ≠ ':'), host.dropWhile (· ≠ ':'))

/-- Characters that are made of others, with a mark among these that ends an authority or parts it. -/
def hidingMarks : List CodeRange :=
  [(0x2047, 0x2049), (0x2100, 0x2101), (0x2105, 0x2106), (0x2A74, 0x2A74), (0xFE13, 0xFE13), (0xFE16, 0xFE16),
   (0xFE55, 0xFE56), (0xFE5F, 0xFE5F), (0xFE6B, 0xFE6B), (0xFF03, 0xFF03), (0xFF0F, 0xFF0F), (0xFF1A, 0xFF1A),
   (0xFF1F, 0xFF20)]

/-- A text without brackets or with a literal address in them, nothing in front of it and at most a number behind it. -/
def bracketsFit (text : List Char) : Bool :=
  let host := (splitUser text).2
  let (name, behind) := splitName host
  if text.contains '[' && text.contains ']' then
    isLiteral name && (!host.contains '[' || (host.head? = some '[' && (behind.isEmpty || behind.head? = some ':')))
  else !text.contains '[' && !text.contains ']'

/-- The text can be an authority. -/
def isAuthority (text : List Char) : Bool := bracketsFit text && !text.any (CodeRange.covers hidingMarks)

/-- A name in small letters, its zone left as it is. -/
def lowerName (name : List Char) : List Char :=
  (lower (String.ofList (name.takeWhile (· ≠ '%')))).toList ++ name.dropWhile (· ≠ '%')

/-- Characters of users and passwords that are sent as they are. -/
def isUserChar (c : Char) : Bool := c.isAlphanum || "_.-~%!$&'()*+,;=".toList.contains c

/-- Bytes of users and passwords that are not shown as characters. -/
def isUserMark (byte : Nat) : Bool := byte ≤ 32 || byte = 127 || "%:@/?#".toList.any fun c => c.toNat = byte

namespace Authority

/-- The authority that a text writes. -/
def ofText (text : List Char) : Authority :=
  let (user, host) := splitUser text
  let (user, password) := splitFirst ':' user
  let (name, behind) := splitName host
  ⟨user, password, lowerName name, (splitFirst ':' behind).2⟩

/-- The number of the host, 0 if none is given. -/
def number? (authority : Authority) : Except AuthorityError Nat :=
  let number := Json.digitsValue authority.number
  if authority.number.all Char.isDigit && number < 65536 then .ok number else .error .invalidNumber

/-- An authority as a text. There is no password without a user. -/
def write (user password name : List Char) (number : Nat) : List Char :=
  let host := if name.contains ':' then '[' :: name ++ [']'] else name
  let host := if number = 0 then host else host ++ ':' :: (toString number).toList
  if user.isEmpty then host else user ++ (if password.isEmpty then [] else ':' :: password) ++ '@' :: host

/-- The text of an authority whose name, user and password are changed. -/
def convert (authority : Authority) (name : List Char → Option (List Char)) (user : List Char → List Char) :
    Except AuthorityError (List Char) := do
  let name ← (if authority.name.isEmpty then some [] else name authority.name).elim (.error .invalidLabel) .ok
  pure (write (user authority.user) (user authority.password) name (← authority.number?))

/-- The authority as it is sent, in ASCII. -/
def sent (authority : Authority) : Except AuthorityError (List Char) :=
  authority.convert encodeName (percentEncode isUserChar)

/-- The authority as it is shown, with the characters that it stands for. -/
def shown (authority : Authority) : Except AuthorityError (List Char) :=
  authority.convert decodeName fun text => (decodeUtf8 (percentBytes isUserMark text)).toList

end Authority

end FrontPage.Host
