import FrontPage.Json.Reader
import FrontPage.Json.Writer
import FrontPage.Value.Kind

/-!
# What a store holds

A store holds contents of bytes, texts among them in UTF-8, and an index that says of what type each content is. The
index is itself a file of the store, so that anything can stand in its place; `Index.value` is what it says then.
`StoreError` lists why a store fails.
-/

namespace FrontPage

/-- What is put into the store. -/
inductive Content where
  | text (s : String)
  | bytes (b : ByteArray)
  /-- A value of another kind, which cannot be stored. -/
  | other (kind : ValueKind)

/-- Why the store fails. -/
inductive StoreError where
  | outage (message : String)
  | keyEscapes (key : String)
  /-- The key is absolute, and the root of the store is not. -/
  | pathsMixed
  | keyNotText (kind : ValueKind)
  | unusableKey
  /-- The path of the key, or a part of it, is longer than a path or the name of a file can be. -/
  | nameTooLong
  /-- The root is the only name of its path, and no directory is told that it is in. -/
  | noDirectory
  /-- More directories would have to be made than steps of work can be nested. -/
  | tooManyDirectories
  | contentNotBytes (kind : ValueKind)
  /-- A file has the name of the directory that the object would be in. -/
  | parentIsFile
  /-- A file has the name of a directory further up. -/
  | ancestorIsFile
  /-- A directory has the name of the object. -/
  | isDirectory
  /-- The object would be in the place of the root of the file system, or of a directory further up. -/
  | isBusy
  | notUtf8
  | notJson (cause : Json.ReadError)
  /-- The index is no record that a type could be noted in. -/
  | indexNotRecord (kind : ValueKind)
  /-- The index cannot be asked, because it is no record. -/
  | indexNotReadable
  /-- The type is nothing that can be noted. -/
  | typeNotNotable
  | notImplemented
  deriving DecidableEq, Repr

/-- The text that reports why the store fails. -/
def StoreError.message : StoreError → String
  | outage message => message
  | keyEscapes key => "Object key escapes the store: " ++ key
  | pathsMixed => "Can't mix absolute and relative paths"
  | keyNotText kind => "join() argument must be str, bytes, or os.PathLike object, not '" ++ kind.name ++ "'"
  | unusableKey => "embedded null byte"
  | nameTooLong => "File name too long"
  | noDirectory => "No such file or directory: ''"
  | tooManyDirectories => "maximum recursion depth exceeded"
  | contentNotBytes kind => "a bytes-like object is required, not '" ++ kind.name ++ "'"
  | parentIsFile => "the object's directory is a file"
  | ancestorIsFile => "a directory on the way to the object is a file"
  | isDirectory => "the object's name is that of a directory"
  | isBusy => "Device or resource busy"
  | notUtf8 => "invalid start byte"
  | notJson cause => cause.message
  | indexNotRecord .list => "list indices must be integers or slices, not str"
  | indexNotRecord kind => "'" ++ kind.name ++ "' object does not support item assignment"
  | indexNotReadable => "object has no attribute 'get'"
  | typeNotNotable => "Object of type bytes is not JSON serializable"
  | notImplemented => ""

/-- The bytes of a content, if it can be stored. -/
def Content.encode : Content → Except StoreError ByteArray
  | text s => .ok s.toUTF8
  | bytes b => .ok b
  | other kind => .error (.contentNotBytes kind)

/-- The text that bytes spell in UTF-8. -/
def decodeText (content : ByteArray) : Except StoreError String :=
  match String.fromUTF8? content with
  | some text => .ok text
  | none => .error .notUtf8

/-- How many steps of work may be nested in each other where work on a store begins. While a document is read, each of
its levels is such a step, and so is each directory while it is made. -/
def mostSteps : Nat := 995

/-- The steps of reading a document besides its levels. -/
def readingSteps : Nat := 5

/-- The value that a text writes in JSON, read where so many steps may be nested. -/
def readDocument (room : Nat) (text : String) : Except StoreError Value :=
  (Json.read (room - readingSteps) text).mapError .notJson

/-- The value that bytes write in UTF-8 and JSON, read where so many steps may be nested. -/
def readJsonBytes (room : Nat) (content : ByteArray) : Except StoreError Value :=
  decodeText content >>= readDocument room

/-- A text with every line end written in the same way. -/
def unifyLineEnds : List Char → List Char
  | '\r' :: '\n' :: rest => '\n' :: unifyLineEnds rest
  | '\r' :: rest => '\n' :: unifyLineEnds rest
  | c :: rest => c :: unifyLineEnds rest
  | [] => []

/-- The file of the index. -/
def indexName : String := "_content_types.json"

/-- The index: not there yet, the types by key, or a file that was put in its place. -/
inductive Index where
  | absent
  | types (byKey : Record)
  | replaced (content : ByteArray)

namespace Index

/-- The bytes of the index file, if there is one. -/
def content? : Index → Option ByteArray
  | absent => none
  | types byKey => some (Json.writeLines 0 (.record byKey)).toUTF8
  | replaced content => some content

/-- What the index file says, read where so many steps may be nested. -/
def value (room : Nat) : Index → Except StoreError Value
  | absent => .ok (.record [])
  | types byKey => .ok (.record byKey)
  | replaced content => do
    let text ← decodeText content
    readDocument (room - 1) (String.ofList (unifyLineEnds text.toList))

/-- The record that the index is, so that a type can be noted in it, read where so many steps may be nested. -/
def record (room : Nat) (index : Index) : Except StoreError Record := do
  match ← index.value room with
  | .record byKey => pure byKey
  | value => throw (.indexNotRecord value.kind)

/-- The beginning of the index file up to the type under a key, as far as it is written if that is a type that cannot be
noted. -/
def begun (byKey : Record) (key : String) : ByteArray :=
  let before := Json.fieldLines 1 (byKey.takeWhile fun field => field.1 != key)
  let start := Json.lineStart 1
  ("\x7b" ++ start ++ ("," ++ start).intercalate (before ++ [Json.writeText false key ++ ": "])).toUTF8

end Index

end FrontPage
