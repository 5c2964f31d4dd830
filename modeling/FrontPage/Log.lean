import FrontPage.Value.Parts
import FrontPage.Value.Text

/-!
# Log lines

A line of the log begins with its level, the usual levels in colour.
-/

namespace FrontPage

/-- The colours of levels, as terminals take them. -/
def levelColours : List (String × String) :=
  [("DEBUG", "94"), ("INFO", "92"), ("WARNING", "93"), ("ERROR", "91"), ("CRITICAL", "95")]

/-- A level in its colour, if it has one. -/
def colouredLevel (level : String) : String :=
  match levelColours.lookup level with
  | some colour => "\x1b[" ++ colour ++ "m" ++ level ++ "\x1b[0m"
  | none => level

/-- A line of the log. -/
def logLine (level message : String) : String := colouredLevel level ++ " " ++ message

/-- A line of the log about any value; the level must be one that can be looked up. -/
def logValue (level message : Value) : Except Misuse String :=
  if level.isName then .ok (logLine level.toText message.toText) else .error .wrongKind

end FrontPage
