import FrontPage.Pipeline.Reclassify

/-!
# The command

The command classifies the articles of an export again and renders the layouts. A `Command` is read from the arguments
(`Command.ofArguments?`) and carried out on an object store with the default settings (`Command.run`). The roster is
empty at first: it holds what the export says and nothing else.
-/

namespace FrontPage

/-- What the command is to do. -/
structure Command where
  /-- The file that holds the export. -/
  source : String
  /-- The layouts are rendered in the end. -/
  render : Bool := true
  /-- Flags are resolved only, and nothing is changed. -/
  dryRun : Bool := false
  deriving DecidableEq, Repr

namespace Command

/-- How the command is called. -/
def usage : String := "usage: frontpage EXPORT [--no-render] [--dry-run]"

/-- The option that leaves the rendering out. -/
def noRenderOption : String := "--no-render"

/-- The option that leaves everything as it is. -/
def dryRunOption : String := "--dry-run"

/-- The command that arguments call for: one source, and options before or after it. -/
def ofArguments? (arguments : List String) : Option Command :=
  let (options, sources) := arguments.partition (Text.begins "-")
  match sources with
  | [source] =>
    if options.all fun option => option = noRenderOption || option = dryRunOption then
      some { source, render := !options.contains noRenderOption, dryRun := options.contains dryRunOption }
    else none
  | _ => none

/-- The environment of the default settings. -/
def environment : Except SettingsError Environment := Environment.ofSettings (defaultSettings "objects" "")

/-- The lines that tell about a run on the content of an export, or why it failed, and the store that is left. -/
def run (command : Command) (store : ObjectStore) (content : ByteArray) (now : Int) :
    Except Failure (List String) × ObjectStore :=
  match environment with
  | .error cause => (.error (.settings cause), store)
  | .ok environment =>
    let action : Action (List String) := do
      let document ← Action.ofExcept .store (readJsonBytes mostSteps content)
      Pipeline.reclassify command.source document command.render command.dryRun
    let (lines, pipeline) := action.run { environment, store, now := .int now }
    (lines, pipeline.store)

end Command

end FrontPage
