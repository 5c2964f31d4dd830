import FrontPage.Store.Draft
import FrontPage.Store.Index
import FrontPage.Text.Blank
import FrontPage.Value.Parts

/-!
# The object store

Objects are files below a root directory, and one of these files, the index, says of what type the content under each
key is. `ObjectStore.put` stores an object under a key and notes its type, `get?` reads the object that a key's path
leads to, `contentType` reads the index. Keys that lead to one path share the object, but each has its own type.

A file is written under a new name first, its draft, which then takes the place of the file. A `put` that fails before
the object is in its place changes no object and no type; directories may have been made for it, and its draft is left
where it is, to be read under its name like any object. Paths of different names are taken to be different files,
as they are below a root with a name of its own. Work on a store is done in nested steps, for which there is only so
much room (`ObjectStore.room`).
-/

namespace FrontPage

/-- Objects by their paths, drafts that were left, the directories that were made, the index, how drafts are named, and
how many steps of work may be nested. -/
structure ObjectStore where
  root : String
  objects : List (Path × ByteArray) := []
  drafts : List (Path × ByteArray) := []
  directories : List Path := []
  index : Index := .absent
  draftNames : DraftNames := .long
  room : Nat := mostSteps

namespace ObjectStore

/-- The text of a key; what is no text is no key. -/
def keyText : Value → Except StoreError String
  | .text key => .ok key
  | value => .error (.keyNotText value.kind)

/-- What is reported of a key that has no path. -/
def refusal (key : String) : Path.Refusal → StoreError
  | .outside => .keyEscapes key
  | .mixed => .pathsMixed

/-- The path of a key. -/
def path? (store : ObjectStore) (key : String) : Except StoreError Path :=
  (Path.resolve store.root key).mapError (refusal key)

/-- A key has the path that it leads to. -/
theorem path?_eq_ok_iff {store : ObjectStore} {key : String} {path : Path} :
    store.path? key = .ok path ↔ Path.resolve? store.root key = some path := by
  rw [path?, Path.resolve?]
  cases Path.resolve store.root key with
  | error refusal => exact iff_of_false nofun nofun
  | ok found =>
    show Except.ok found = Except.ok path ↔ some found = some path
    rw [Except.ok.injEq, Option.some.injEq]

/-- The most bytes of the name of a file. -/
def longestName : Nat := 255

/-- The most bytes of the text of a path. -/
def longestPath : Nat := 4095

/-- The bytes of the name of a draft. -/
def draftSize : Nat := 11

/-- The content of the file at a path. -/
def file? (store : ObjectStore) (path : Path) : Option ByteArray :=
  if path = [indexName] then
    if store.directories.contains path then none else store.index.content?
  else (store.objects.lookup path).or (store.drafts.lookup path)

/-- The files of a store with their contents, the index last. -/
def files (store : ObjectStore) : List (Path × ByteArray) :=
  let drafts := store.drafts.filter fun draft => (store.objects.lookup draft.1).isNone
  store.objects ++ drafts ++ (store.index.content?.map fun content => ([indexName], content)).toList

/-- The files of a store that are not those of an earlier one. -/
def changes (earlier store : ObjectStore) : List (Path × ByteArray) :=
  store.files.filter fun (path, content) => earlier.file? path != some content

/-- The path leads to a directory: to the root, further up, or to one that was made. -/
def isDirectory (store : ObjectStore) (path : Path) : Bool := path.all (· == "..") || store.directories.contains path

/-- The object under a key; a key that leads to no file has none. -/
def get? (store : ObjectStore) (key : String) : Except StoreError (Option ByteArray) :=
  (store.path? key).map store.file?

/-- The text under a key. -/
def getText? (store : ObjectStore) (key : String) : Except StoreError (Option String) := do
  match ← store.get? key with
  | none => pure none
  | some content => some <$> decodeText content

/-- The document under a key. -/
def getJson? (store : ObjectStore) (key : String) : Except StoreError (Option Value) := do
  match ← store.getText? key with
  | none => pure none
  | some text => some <$> readDocument store.room text

/-- The bytes of the text that the index is asked for under: its name behind the root as that is written. -/
def indexSize (store : ObjectStore) : Nat := (Path.join store.root indexName).utf8ByteSize

/-- The index as it is found; where its name makes too long a text there seems to be none. -/
def foundIndex (store : ObjectStore) : Index := if longestPath < store.indexSize then .absent else store.index

/-- What the index says about types, which is a record unless something else was put in its place. -/
def types (store : ObjectStore) : Except StoreError Value := store.foundIndex.value store.room

/-- The keys of the index with their types. -/
def typesByKey (store : ObjectStore) : Except StoreError Record := do
  match ← store.types with
  | .record byKey => pure byKey
  | _ => throw .indexNotReadable

/-- The type of the content under a key; nothing if none was noted. -/
def contentType (store : ObjectStore) (key : String) : Except StoreError Value :=
  store.typesByKey.map fun byKey => Record.get byKey key

/-- The keys of the index that do not begin with certain letters, with their types and the texts under them. -/
def listing (store : ObjectStore) (hidden : String) : Except StoreError (List (String × Value × Option String)) := do
  let shown := (← store.typesByKey).filter fun entry => !Text.begins hidden entry.1
  shown.mapM fun (key, type) => do pure (key, type, ← store.getText? key)

/-- The objects with one put at a path. -/
def putObject (path : Path) (content : ByteArray) : List (Path × ByteArray) → List (Path × ByteArray)
  | [] => [(path, content)]
  | (p, c) :: rest => if p = path then (p, content) :: rest else (p, c) :: putObject path content rest

/-- The store with a file written at a path. -/
def writeFile (store : ObjectStore) (path : Path) (content : ByteArray) : ObjectStore :=
  if path = [indexName] then { store with index := .replaced content }
  else { store with objects := putObject path content store.objects }

/-- The text of names behind each other, of the root and below it, as the root's normal form begins. -/
def text (store : ObjectStore) (names : Path) : String := Path.lead store.root ++ "/".intercalate names

/-- Why there can be no file at a path, if there can be none. -/
def pathFlaw? (store : ObjectStore) (path : Path) : Option StoreError :=
  let name := path.getLast?.getD ""
  let text := store.text (Path.names store.root ++ path)
  if name.toList.contains '\x00' then some .unusableKey
  else if longestName < name.utf8ByteSize || longestPath < text.utf8ByteSize then some .nameTooLong
  else none

/-- Why no draft can be made for a file at a path, if none can be. -/
def draftFlaw? (store : ObjectStore) (path : Path) : Option StoreError :=
  let names := Path.names store.root ++ path
  if Path.lead store.root = "" && names.length ≤ 1 then some .noDirectory
  else if longestPath < (store.text (names.dropLast ++ [""])).utf8ByteSize + draftSize then some .nameTooLong
  else none

/-- The path ends in a directory that the file system does not let go of. -/
def isBusy (store : ObjectStore) (path : Path) : Bool :=
  (Path.names store.root ++ path).getLast?.all (· == "..")

/-- Why a draft cannot take its place at a path, if it cannot. -/
def placeFlaw? (store : ObjectStore) (path : Path) : Option StoreError :=
  match store.pathFlaw? path with
  | some cause => some cause
  | none => if store.isBusy path then some .isBusy else if store.isDirectory path then some .isDirectory else none

/-- The directory of the draft of a file: that of the file itself, and for the root the directory that it is in. -/
def draftDirectory (store : ObjectStore) (path : Path) : Path :=
  if path.isEmpty && !(Path.names store.root).isEmpty then [".."] else path.dropLast

/-- The paths of all objects, drafts and directories. -/
def taken (store : ObjectStore) : List Path :=
  store.objects.map Prod.fst ++ store.drafts.map Prod.fst ++ store.directories

/-- The path of the next draft of a file. -/
def draftPath (store : ObjectStore) (path : Path) : Path :=
  store.draftDirectory path ++ [store.draftNames.name (store.draftDirectory path) store.taken]

/-- The store with the draft of a file left in it. -/
def leaveDraft (store : ObjectStore) (path : Path) (content : ByteArray) : ObjectStore :=
  { store with drafts := store.drafts ++ [(store.draftPath path, content)] }

/-- Why the draft of an index cannot take its place, if it cannot. -/
def indexFlaw? (store : ObjectStore) : Option StoreError :=
  if longestPath < store.indexSize then some .nameTooLong
  else if store.directories.contains [indexName] then some .isDirectory
  else none

/-- Notes the type under a key in the index, unless it cannot be noted, as none cannot; the store that is left is given
in every case. -/
def noteType (store : ObjectStore) (key : String) (type : Option Value) : Except StoreError Unit × ObjectStore :=
  match store.foundIndex.record (store.room - 2) with
  | .error cause => (.error cause, store)
  | .ok byKey =>
    if longestPath < (Path.bare store.root).utf8ByteSize + 1 + draftSize then (.error .nameTooLong, store)
    else
      match type with
      | none => (.error .typeNotNotable, store.leaveDraft [indexName] (Index.begun byKey key))
      | some type =>
        let index := Index.types (Record.set byKey key type)
        match store.indexFlaw? with
        | some cause => (.error cause, store.leaveDraft [indexName] (index.content?.getD .empty))
        | none => (.ok (), { store with index })

/-- There is room to make so many directories inside each other. -/
def canNest (store : ObjectStore) (count : Nat) : Bool := count + 3 ≤ store.room

/-- Why no directories can be made below a file. -/
def fileInTheWay (store : ObjectStore) : List String → StoreError
  | [] => .parentIsFile
  | name :: rest =>
    if !store.canNest (rest.length + 1) then .tooManyDirectories
    else if name.toList.contains '\x00' then .unusableKey
    else .ancestorIsFile

/-- The store with directories made one inside the other, below one that is there; those made before a failure stay. -/
def makeDirectories (store : ObjectStore) (base : Path) : List String → Except StoreError Unit × ObjectStore
  | [] => (.ok (), store)
  | name :: rest =>
    let path := base ++ [name]
    if store.isDirectory path then store.makeDirectories path rest
    else if (store.file? path).isSome then (.error (store.fileInTheWay rest), store)
    else if !store.canNest (rest.length + 1) then (.error .tooManyDirectories, store)
    else
      match store.pathFlaw? path with
      | some cause => (.error cause, store)
      | none => makeDirectories { store with directories := store.directories ++ [path] } path rest

/-- Writes a content at a path, with the directories on the way to it; the store that is left is given in every case. -/
def write (store : ObjectStore) (path : Path) (content : Content) : Except StoreError Unit × ObjectStore :=
  match store.makeDirectories [] path.dropLast with
  | (.error cause, prepared) => (.error cause, prepared)
  | (.ok (), prepared) =>
    match store.draftFlaw? path with
    | some cause => (.error cause, prepared)
    | none =>
      match content.encode, prepared.placeFlaw? path with
      | .error cause, _ => (.error cause, prepared.leaveDraft path .empty)
      | .ok bytes, some cause => (.error cause, prepared.leaveDraft path bytes)
      | .ok bytes, none => (.ok (), prepared.writeFile path bytes)

/-- Puts a content under a key and notes its type, unless that cannot be noted; the store that is left is given in every
case. -/
def put (store : ObjectStore) (key : String) (content : Content) (type : Option Value) :
    Except StoreError Unit × ObjectStore :=
  match store.path? key with
  | .error cause => (.error cause, store)
  | .ok path =>
    match store.write path content with
    | (.error cause, left) => (.error cause, left)
    | (.ok (), written) => written.noteType key type

/-- The type of the content under a key that may be any value; nothing is noted under a key that is no text. -/
def typeUnder (store : ObjectStore) (key : Value) : Except StoreError Value := do
  let byKey ← store.typesByKey
  match (Value.record byKey).field key with
  | .ok type => pure type
  | .error _ => throw (.keyNotText key.kind)

end ObjectStore

end FrontPage
