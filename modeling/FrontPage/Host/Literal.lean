import FrontPage.Text.Blank
import FrontPage.Text.Digit

/-!
# Literal addresses

Instead of a name, a host may have an address in brackets: of version 6, or of a version to come. `isLiteral` says
what may stand between the brackets. An address of version 6 has eight groups of hexadecimal digits, of which a row of
zeros may be left out once, and the last two may be written as an address of version 4; a zone may follow a percent
sign.
-/

namespace FrontPage.Host

open FrontPage.Text

/-- A number below 256 in decimal digits without zeros in front. -/
def isOctet (text : List Char) : Bool :=
  !text.isEmpty && text.length ≤ 3 && text.all Char.isDigit && (text = ['0'] || text.head? ≠ some '0')
    && digitsValue text < 256

/-- An address of version 4: four numbers with points between them. -/
def isVersion4 (text : List Char) : Bool :=
  let octets := pieces '.' text
  octets.length = 4 && octets.all isOctet

/-- A group has from one to four hexadecimal digits. -/
def isGroup (text : List Char) : Bool := !text.isEmpty && text.length ≤ 4 && text.all fun c => (hexValue? c).isSome

/-- How many groups are in front of zeros that are left out, or behind them, where nothing at all may stand as well. -/
def countGroups (parts : List (List Char)) : Option Nat :=
  if parts = [[]] then some 0 else if parts.all isGroup then some parts.length else none

/-- The parts of an address of version 6, those of an address of version 4 at its end taken for two groups. -/
def groupsOf (address : List Char) : Option (List (List Char)) :=
  let parts := pieces ':' address
  match parts.getLast? with
  | some last =>
    if parts.length < 3 then none
    else if last.contains '.' then
      if isVersion4 last then some (parts.dropLast ++ [['0'], ['0']]) else none
    else some parts
  | none => none

/-- An address of version 6 without a zone. Zeros are left out where an inner part is empty. -/
def isPlainVersion6 (address : List Char) : Bool :=
  match groupsOf address with
  | none => false
  | some parts =>
    match parts.tail.dropLast.findIdx? List.isEmpty with
    | none => parts.length = 8 && parts.all isGroup
    | some i =>
      match countGroups (parts.take (i + 1)), countGroups (parts.drop (i + 2)) with
      | some before, some behind => parts.length ≤ 9 && before + behind ≤ 7
      | _, _ => false

/-- An address of version 6. A zone is not empty and has no percent sign. -/
def isVersion6 (text : List Char) : Bool :=
  let (address, zone) := splitFirst '%' text
  isPlainVersion6 address && (!text.contains '%' || (!zone.isEmpty && !zone.contains '%'))

/-- An address of a version to come: the letter v, the version in hexadecimal digits, a point, and something behind
it. -/
def isFutureVersion (text : List Char) : Bool :=
  let (version, address) := splitFirst '.' text
  match version with
  | 'v' :: digits => !digits.isEmpty && digits.all (fun c => (hexValue? c).isSome) && !address.isEmpty
  | _ => false

/-- What may stand between the brackets of a host. -/
def isLiteral (text : List Char) : Bool := if text.head? = some 'v' then isFutureVersion text else isVersion6 text

end FrontPage.Host
