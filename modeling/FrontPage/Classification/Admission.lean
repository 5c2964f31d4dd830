import FrontPage.Clause
import FrontPage.Layout.Config
import FrontPage.Roster.Statement

/-!
# Admission of articles to flags

`Flag.claim` says what a record and the active layouts settle about a flag: an article holds a highlight if its record
says yes, and an article group if the group has a layout whose clause selects it, but a layout with a limit leaves the
question to a count. `decideCandidates` answers it for all such candidates: a flag is admitted while fewer other
articles hold it than its layout's limit. One statement counts for all candidates; if it fails, each is counted for
itself, and a candidate that cannot be counted is admitted.
-/

namespace FrontPage

/-- What is known about a flag of an article before counting. -/
inductive Claim where
  | settled (held : Bool)
  | limited (layout : Layout)

/-- The flags of an article. -/
abbrev FlagSet := Slots Flag Bool

namespace FlagSet

/-- Some flag is held. -/
def any (flags : FlagSet) : Bool := Flag.all.any flags.get

/-- The flags as fields of a record. -/
def record (flags : FlagSet) : Record := flags.toList.map fun (flag, held) => (flag.column, .text (Flag.word held))

end FlagSet

/-- A layout settles a flag unless it has a limit. -/
def Layout.claim (layout : Layout) : Claim := if layout.limit.isPositive then .limited layout else .settled true

/-- A layout takes an article: its clause selects the article, or there is no clause. -/
def Layout.takes (layout : Layout) (record : Record) : Bool :=
  !layout.clause.holds || Clause.selects layout.clause record

/-- What a record and the active layouts settle about a flag. -/
def Flag.claim (config : LayoutConfig) (record : Record) (flag : Flag) : Claim :=
  match flag with
  | .highlight _ =>
    if (Record.get record flag.column).isYes then
      ((config.byName? flag.layoutName).map Layout.claim).getD (.settled true)
    else .settled false
  | .articleGroup _ =>
    match config.group? flag.layoutName with
    | some layout => if layout.takes record then layout.claim else .settled false
    | none => .settled false

/-- The flags that are left to a count, with the layouts that limit them. -/
def candidates (config : LayoutConfig) (record : Record) : List (Flag × Layout) :=
  Flag.all.filterMap fun flag =>
    match flag.claim config record with
    | .limited layout => some (flag, layout)
    | .settled _ => none

/-- The flags that are settled without a count. -/
def settledFlags (config : LayoutConfig) (record : Record) : List (Flag × Bool) :=
  Flag.all.filterMap fun flag =>
    match flag.claim config record with
    | .limited _ => none
    | .settled held => some (flag, held)

/-- A layout has room for one more article. -/
def Layout.hasRoom (layout : Layout) (count : Nat) : Bool := (Number.int count).less layout.limit

/-- Which candidates are admitted, and what came up on the way. -/
structure Admission where
  admitted : List (Flag × Bool)
  trace : List Counter

/-- A candidate counted for itself. -/
def admitOne (roster : Roster) (id : Value) (flag : Flag) (layout : Layout) : Bool :=
  match roster.countFlag flag id with
  | .ok count => layout.hasRoom count
  | .error _ => true

/-- The candidates counted all at once, or each for itself when that fails. -/
def admitAll (roster : Roster) (candidates : List (Flag × Layout)) (id : Value) :
    Except StatementError (List (Flag × Nat)) → List (Flag × Bool)
  | .ok counts => candidates.map fun c => (c.1, c.2.hasRoom ((counts.lookup c.1).getD 0))
  | .error _ => candidates.map fun c => (c.1, admitOne roster id c.1 c.2)

/-- What came up when the candidates were counted. -/
def countTrace (roster : Roster) (candidates : List (Flag × Layout)) (id : Value)
    (counted : Except StatementError (List (Flag × Nat))) : List Counter :=
  Query.countFlags.trace counted ++
    match counted with
    | .ok _ => []
    | .error _ => candidates.flatMap fun c => (Query.countFlag c.1).trace (roster.countFlag c.1 id)

/-- Which of the candidates an article is admitted to. -/
def decideCandidates (roster : Roster) (candidates : List (Flag × Layout)) (id : Value) : Admission :=
  let counted := roster.countFlags (candidates.map (·.1)) id
  let admitted := admitAll roster candidates id counted
  let denials := (admitted.filter fun a => !a.2).map fun a => Counter.denial a.1
  ⟨admitted, countTrace roster candidates id counted ++ denials⟩

/-- The flags of an article, and what came up when they were resolved. -/
structure Resolution where
  flags : FlagSet
  trace : List Counter

/-- The flags of an article whose record and layouts are given. -/
def resolveFlags (config : LayoutConfig) (roster : Roster) (record : Record) (id : Value) : Resolution :=
  let limited := candidates config record
  let admission := if limited.isEmpty then ⟨[], []⟩ else decideCandidates roster limited id
  let flags := Slots.ofFn fun flag =>
    match flag.claim config record with
    | .settled held => held
    | .limited _ => (admission.admitted.lookup flag).getD true
  ⟨flags, admission.trace⟩

end FrontPage
