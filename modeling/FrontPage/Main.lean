import FrontPage.Command
import Std.Time.DateTime.Timestamp

/-!
# The command line

Reads the export and the object store, carries the command out, prints its lines and writes the files that it published.
The object store is the directory `objects`.
-/

namespace FrontPage

/-- The directory of the object store. -/
def objectDirectory : String := "objects"

/-- The file of an object. -/
def objectFile (path : Path) : String := "/".intercalate (objectDirectory :: path)

/-- The store that the index and the source documents of the directory make up, as far as they are there. -/
def openStore : IO ObjectStore := do
  let mut store : ObjectStore := { root := objectDirectory }
  for name in [indexName, "sys-system-layouts.json", "sys-menus-lov.json"] do
    try
      store := store.writeFile [name] (← IO.FS.readBinFile (objectFile [name]))
    catch _ => pure ()
  return store

/-- Writes files below the directory. -/
def writeFiles (files : List (Path × ByteArray)) : IO Unit := do
  for (path, content) in files do
    IO.FS.createDirAll (objectFile path.dropLast)
    IO.FS.writeBinFile (objectFile path) content

end FrontPage

/-- Carries out the command that the arguments call for. -/
def main (arguments : List String) : IO UInt32 := do
  match FrontPage.Command.ofArguments? arguments with
  | none =>
    IO.eprintln FrontPage.Command.usage
    return 2
  | some command =>
    let content ← IO.FS.readBinFile command.source
    let store ← FrontPage.openStore
    let now := (← Std.Time.Timestamp.now).toMillisecondsSinceUnixEpoch.val
    let (result, after) := command.run store content now
    FrontPage.writeFiles (store.changes after)
    match result with
    | .ok lines =>
      for line in lines do IO.println line
      return 0
    | .error cause =>
      IO.eprintln ("the export cannot be classified: " ++ cause.message)
      return 1
