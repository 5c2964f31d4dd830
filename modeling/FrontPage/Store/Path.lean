import FrontPage.Text.Blank

/-!
# Paths of objects

The key of an object is joined to the root directory of its store, and the normal form of what this makes is the path of
the object. The root is a text as the key is, absolute or relative to a directory that it does not tell, and a key is
refused unless what its path has in common with the normal form of the root is that very text (`locate`). `resolve?`
gives the names of a path behind those of the root.
-/

namespace FrontPage

/-- The names of a path below a directory. -/
abbrev Path := List String

namespace Path

/-- The parts of a text between slashes. -/
def parts (text : String) : List String := (Text.pieces '/' text.toList).map String.ofList

/-- The text begins with a slash, so that it leads down from the root of the file system. -/
def isAbsolute (text : String) : Bool := text.toList.head? == some '/'

/-! ## Normal forms -/

/-- The slashes that a normal form begins with: two remain two, and any other number of them counts as one. -/
def lead (text : String) : String :=
  match text.toList with
  | '/' :: '/' :: '/' :: _ => "/"
  | '/' :: '/' :: _ => "//"
  | '/' :: _ => "/"
  | _ => ""

/-- The names with one more part: `..` takes the last of them away. Above the root of the file system there is nothing,
while a relative path goes further up. -/
def step (absolute : Bool) (names : Path) (part : String) : Path :=
  if part = "" || part = "." then names
  else if part = ".." && names.getLast? != some ".." && (absolute || !names.isEmpty) then names.dropLast
  else names ++ [part]

/-- The names with a row of parts, one after the other. -/
def walk (absolute : Bool) (start : Path) (parts : List String) : Path := parts.foldl (step absolute) start

/-- The names in the normal form of a text. -/
def names (text : String) : Path := walk (isAbsolute text) [] (parts text)

/-- The text of names behind slashes; if there is neither, a dot. -/
def write (lead : String) (names : Path) : String :=
  if lead = "" && names.isEmpty then "." else lead ++ "/".intercalate names

/-- The normal form of a text. -/
def normal (text : String) : String := write (lead text) (names text)

/-! ## Keys -/

/-- A key behind the root, unless it is absolute itself. -/
def join (root key : String) : String :=
  if isAbsolute key then key
  else if root.toList.getLast?.all (· == '/') then root ++ key
  else root ++ "/" ++ key

/-- A text without the slashes at its end. -/
def bare (text : String) : String := String.ofList (text.toList.reverse.dropWhile (· == '/')).reverse

/-- The names that two paths begin with. -/
def commonNames : Path → Path → Path
  | a :: path, b :: other => if a = b then a :: commonNames path other else []
  | _, _ => []

/-- The path that two texts have in common, unless one of them is absolute and the other is not. -/
def common? (text other : String) : Option String :=
  let named (text : String) := (parts text).filter fun part => part != "" && part != "."
  if isAbsolute text = isAbsolute other then
    some ((if isAbsolute text then "/" else "") ++ "/".intercalate (commonNames (named text) (named other)))
  else none

/-- Why a key has no path. -/
inductive Refusal where
  /-- The path does not go on from the root. -/
  | outside
  /-- The key is absolute and the root is not. -/
  | mixed
  deriving DecidableEq, Repr

/-- The path of a key, as a text. -/
def locate (root key : String) : Except Refusal String :=
  let path := normal (join root key)
  match common? path (normal root) with
  | none => .error .mixed
  | some common => if common = normal root then .ok path else .error .outside

/-- The path of a key below the root. -/
def resolve (root key : String) : Except Refusal Path :=
  (locate root key).map fun path => (names path).drop (names root).length

/-- The path of a key below the root, if it has one. -/
def resolve? (root key : String) : Option Path := (resolve root key).toOption

end Path

end FrontPage
