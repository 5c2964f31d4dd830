import FrontPage.Json.Writer

/-!
# Settings

Settings are sections of named values. Overrides are merged into the defaults section by section: a section that is a
record changes the values it names, anything else replaces the section (`mergeSettings`). An `Environment` is what the
pipeline reads from its settings, a `Setup` has both, and `SettingsFile` is the file that they are loaded from, in a
directory of its own; of what stands there, only short names can be read.
-/

namespace FrontPage

/-- The default settings for a directory of objects and a database. -/
def defaultSettings (objectDirectory databaseUri : String) : Record :=
  [ ("storage", .record [("object_store_dir", .text objectDirectory)]),
    ("database", .record [("uri", .text databaseUri)]),
    ("layouts", .record
      [ ("source_key", .text "sys-system-layouts.json"),
        ("menus_lov_key", .text "sys-menus-lov.json"),
        ("combined_file", .text "layout.js"),
        ("default_file", .text "layout.js"),
        ("reserved_prefix", .text "menu") ]),
    ("cache", .record [("layout_ttl", .int 300), ("items_ttl", .int 60), ("table_ttl", .int 600)]),
    ("render", .record [("after_classification", .bool true)]) ]

/-- Why settings cannot be used. -/
inductive SettingsError where
  /-- The overrides are no record. -/
  | notARecord
  /-- A section that values are read from is no record. -/
  | sectionNotARecord
  /-- The directory of the settings file is a file. -/
  | directoryIsFile
  /-- What should become a file is the directory of the settings file. -/
  | fileIsDirectory
  /-- A name in the settings file is too long to be read. -/
  | nameTooLong
  deriving DecidableEq, Repr

/-- The settings with one section overridden. -/
def mergeSection (settings : Record) (part : String × Value) : Record :=
  match Record.get? settings part.1, part.2 with
  | some (.record defaults), .record values => Record.set settings part.1 (.record (Record.merge defaults values))
  | _, value => Record.set settings part.1 value

/-- The defaults with overrides merged in; overrides that do not hold change nothing. -/
def mergeSettings (defaults : Record) (overrides : Value) : Except SettingsError Record :=
  if overrides.holds then
    match overrides with
    | .record sections => .ok (sections.foldl mergeSection defaults)
    | _ => .error .notARecord
  else .ok defaults

/-- What the pipeline reads from its settings. -/
structure Environment where
  /-- The key of the layout document. -/
  layoutsKey : Value
  /-- The key of the menus document. -/
  menusKey : Value
  /-- The file that all scripts go to. -/
  combinedFile : Value
  /-- The first letters of the names of layouts that are not rendered. -/
  reservedStart : Value
  /-- How long layouts, articles and the existence of the table are cached. -/
  layoutsTtl : Value
  itemsTtl : Value
  tableTtl : Value
  /-- The section that says whether pages follow a classification. -/
  rendering : Value

/-- The environment that settings describe. -/
def Environment.ofSettings (settings : Record) : Except SettingsError Environment :=
  match Record.get settings "layouts", Record.get settings "cache" with
  | .record layouts, .record cache =>
    .ok
      { layoutsKey := Record.get layouts "source_key"
        menusKey := Record.get layouts "menus_lov_key"
        combinedFile := Record.get layouts "combined_file"
        reservedStart := Record.get layouts "reserved_prefix"
        layoutsTtl := Record.get cache "layout_ttl"
        itemsTtl := Record.get cache "items_ttl"
        tableTtl := Record.get cache "table_ttl"
        rendering := Record.get settings "render" }
  | _, _ => .error .sectionNotARecord

/-- Settings and the environment that they describe. -/
structure Setup where
  settings : Record
  environment : Environment

/-- The setup for overrides. -/
def Setup.ofOverrides (defaults : Record) (overrides : Value) : Except SettingsError Setup := do
  let settings ← mergeSettings defaults overrides
  pure { settings, environment := ← Environment.ofSettings settings }

/-- The directory of objects that settings name. -/
def storageDirectory (settings : Record) : Except SettingsError Value :=
  match Record.get settings "storage" with
  | .record storage => .ok (Record.get storage "object_store_dir")
  | _ => .error .sectionNotARecord

/-- A store in the directory that overrides name, and the setup for them. The overrides are merged to find the
directory, and what comes out is handed on as the overrides of the setup. -/
def Setup.withStore {σ : Type} (openStore : Value → Except SettingsError σ) (defaults : Record) (overrides : Value) :
    Except SettingsError (σ × Setup) := do
  let merged ← mergeSettings defaults overrides
  let store ← openStore (← storageDirectory merged)
  pure (store, ← ofOverrides defaults (.record merged))

/-- The most characters of a name in the settings file, as it is written there in quotes. -/
def longestName : Nat := 1024

mutual

/-- All names in a value are short enough for the settings file. -/
def namesFit : Value → Bool
  | .list items => namesFitItems items
  | .record fields => namesFitFields fields
  | _ => true

/-- All names in the items of a list are short enough. -/
def namesFitItems : List Value → Bool
  | [] => true
  | item :: rest => namesFit item && namesFitItems rest

/-- All names of fields and in their values are short enough. -/
def namesFitFields : List (String × Value) → Bool
  | [] => true
  | (name, value) :: rest =>
    (Json.writeText true name).length ≤ longestName && namesFit value && namesFitFields rest

end

/-- The settings that the content of the settings file stands for. -/
def readSettings (defaults : Record) (content : Value) : Except SettingsError Record :=
  if namesFit content then mergeSettings defaults content else .error .nameTooLong

/-- The place of the settings file. -/
inductive SettingsPlace where
  /-- There is no directory for the file. -/
  | absent
  /-- There is the directory, and the file with its content if it is there too. -/
  | directory (content : Option Value)
  /-- There is a file in the place of the directory. -/
  | blocked

/-- The settings file, and the settings loaded last. -/
structure SettingsFile where
  place : SettingsPlace := .absent
  loaded : Option Record := none

namespace SettingsFile

/-- What the file holds, if it exists. -/
def content? (file : SettingsFile) : Option Value :=
  match file.place with
  | .directory content => content
  | _ => none

/-- The file exists. -/
def exists? (file : SettingsFile) : Bool := file.content?.isSome

/-- Writes the file, making its directory. -/
def write (file : SettingsFile) (content : Value) : Except SettingsError SettingsFile :=
  match file.place with
  | .blocked => .error .directoryIsFile
  | _ => .ok { file with place := .directory (some content) }

/-- Whether the file existed, and the place without it. -/
def remove (file : SettingsFile) : Bool × SettingsFile :=
  match file.place with
  | .directory (some _) => (true, { file with place := .directory none })
  | _ => (false, file)

/-- Puts a file in the place of the directory. -/
def block (file : SettingsFile) : Except SettingsError SettingsFile :=
  match file.place with
  | .directory _ => .error .fileIsDirectory
  | _ => .ok { file with place := .blocked }

/-- Loads the settings, unless they are loaded already and the load is not forced. A file that does not exist is
written with the defaults, if it can be. -/
def load (defaults : Record) (file : SettingsFile) (force : Bool) : Except SettingsError Record × SettingsFile :=
  match file.loaded, force, file.content? with
  | some settings, false, _ => (.ok settings, file)
  | _, _, some content =>
    match readSettings defaults content with
    | .ok settings => (.ok settings, { file with loaded := some settings })
    | .error cause => (.error cause, file)
  | _, _, none =>
    let written := (file.write (.record defaults)).toOption.getD file
    (.ok defaults, { written with loaded := some defaults })

/-- Forgets the settings and loads them again. -/
def reload (defaults : Record) (file : SettingsFile) : Except SettingsError Record × SettingsFile :=
  ({ file with loaded := none } : SettingsFile).load defaults true

end SettingsFile

end FrontPage
