import FrontPage.Host.Authority

/-!
# Addresses

An address may name a scheme and an authority in front of a path with parameters, and a fragment behind it
(`Address.read`). A request asks for a target, which may look like an address, and so may its path, and the path of
that: `Destination.ofTarget` says where a target leads, and `Destination.check` whether the host there can be shown.
-/

namespace FrontPage

open FrontPage.Host

/-- Why a target leads nowhere. -/
inductive AddressError where
  /-- What stands for an authority cannot be one. -/
  | noAuthority
  | authority (cause : AuthorityError)
  deriving DecidableEq, Repr

/-- An address without its fragment. What is not given is empty. -/
structure Address where
  scheme : List Char
  authority : List Char
  path : List Char
  query : List Char

namespace Address

/-- The characters of schemes. -/
def isSchemeChar (c : Char) : Bool := c.isAlphanum || c == '+' || c == '-' || c == '.'

/-- The scheme that an address begins with, in small letters, and what is behind its colon. -/
def splitScheme (text : List Char) : List Char × List Char :=
  let scheme := text.takeWhile (· ≠ ':')
  match text.drop scheme.length with
  | _ :: rest =>
    if (scheme.head?.map Char.isAlpha).getD false && scheme.all isSchemeChar then (scheme.map Char.toLower, rest)
    else ([], text)
  | [] => ([], text)

/-- The authority that an address begins with behind two slashes, and what is behind it. -/
def splitAuthority : List Char → List Char × List Char
  | '/' :: '/' :: rest =>
    let inside (c : Char) : Bool := c ≠ '/' && c ≠ '?' && c ≠ '#'
    (rest.takeWhile inside, rest.dropWhile inside)
  | text => ([], text)

/-- The parts of an address. Control characters and blanks in front of the address do not belong to it, nor do tabs and
line ends anywhere. -/
def split (text : List Char) : Address :=
  let text := (text.dropWhile (·.toNat ≤ 32)).filter fun c => c ≠ '\t' && c ≠ '\r' && c ≠ '\n'
  let (scheme, rest) := splitScheme text
  let (authority, rest) := splitAuthority rest
  let (path, query) := Text.splitFirst '?' (Text.splitFirst '#' rest).1
  ⟨scheme, authority, path, query⟩

/-- The address that a text writes, if its authority can be one. -/
def read (text : List Char) : Except AddressError Address :=
  let address := split text
  if isAuthority address.authority then .ok address else .error .noAuthority

/-- The path with the parameters. -/
def target (address : Address) : List Char :=
  if address.query.isEmpty then address.path else address.path ++ '?' :: address.query

/-- The text of an address whose authority is written in another way, without the parameters. -/
def write (address : Address) (authority : List Char) : List Char :=
  (if address.scheme.isEmpty then [] else address.scheme ++ [':'])
    ++ (if authority.isEmpty then [] else '/' :: '/' :: authority) ++ address.path

end Address

/-- Where a request goes: the host with a number, the path and the parameters. -/
structure Destination where
  host : List Char
  path : List Char
  query : List Char

namespace Destination

/-- The text of an authority as it is sent. -/
def sentAuthority (text : List Char) : Except AddressError (List Char) :=
  (Authority.ofText text).sent.mapError .authority

/-- The host of a scheme, the number that goes without saying left out. -/
def plainHost (scheme host : List Char) : List Char :=
  let number : List Char :=
    if scheme = "https".toList || scheme = "wss".toList then ":443".toList
    else if scheme.isEmpty || scheme = "http".toList || scheme = "ws".toList then ":80".toList
    else []
  if number.isSuffixOf host then host.take (host.length - number.length) else host

/-- Where a target leads. Without an authority it leads to the host of the service itself. -/
def ofTarget (target : List Char) : Except AddressError Destination := do
  let outer ← Address.read target
  let inner ← Address.read outer.target
  let last ← Address.read inner.path
  let path := last.write (← sentAuthority last.authority)
  let host ← sentAuthority (if outer.authority.isEmpty then "localhost".toList else outer.authority)
  if isAuthority host then pure ⟨plainHost outer.scheme host, path, inner.query⟩ else throw .noAuthority

/-- The host that is shown of a destination can be one. -/
def check (destination : Destination) : Except AddressError Unit := do
  let shown ← (Authority.ofText destination.host).shown.mapError .authority
  if isAuthority shown then pure () else throw .noAuthority

/-- The host in front of a colon can be looked for. -/
def isReachable (destination : Destination) : Bool := labelsFit (destination.host.takeWhile (· ≠ ':'))

end Destination

end FrontPage
