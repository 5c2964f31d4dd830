import FrontPage.Layout.Basic

/-!
# Layout configurations

A configuration holds the active layouts of a layout document in document order. Looking a name up gives the last
active layout of that name, among all of them (`byName?`) or among those that define article groups (`group?`).
`LayoutConfig.ofDocument` leaves out the entries that have no name.
-/

namespace FrontPage

/-- The active layouts of a layout document, in document order. -/
structure LayoutConfig where
  active : List Layout

/-- Why a layout document gives no configuration. -/
inductive ConfigError where
  | notAList
  | infiniteLimit
  deriving DecidableEq, Repr

/-- The text that reports why a layout document gives no configuration. -/
def ConfigError.message : ConfigError → String
  | .notAList => "Layout source must be a JSON array"
  | .infiniteLimit => "cannot convert float infinity to integer"

namespace LayoutConfig

/-- The configuration without layouts. -/
def empty : LayoutConfig := ⟨[]⟩

/-- The active layouts of the entries of a document; entries without a name are left out. -/
def activeLayouts : List Value → Except ConfigError (List Layout)
  | [] => .ok []
  | entry :: rest =>
    match Layout.ofValue entry with
    | .error (.unnamed _) => activeLayouts rest
    | .error .infiniteLimit => .error .infiniteLimit
    | .ok layout =>
      (activeLayouts rest).map fun layouts => if layout.active then layout :: layouts else layouts

/-- The configuration of a layout document. -/
def ofDocument : Value → Except ConfigError LayoutConfig
  | .list entries => (activeLayouts entries).map .mk
  | _ => .error .notAList

/-- The active layouts that define groups of articles. -/
def articleGroups (config : LayoutConfig) : List Layout := config.active.filter Layout.isArticleGroup

/-- The last layout of a name. -/
def lastNamed? (layouts : List Layout) (name : String) : Option Layout :=
  layouts.reverse.find? fun layout => layout.name == name

/-- The last active layout of a name. -/
def byName? (config : LayoutConfig) (name : String) : Option Layout := lastNamed? config.active name

/-- The last active layout of a name that defines a group of articles. -/
def group? (config : LayoutConfig) (name : String) : Option Layout := lastNamed? config.articleGroups name

/-- The active layouts by name, the last of each name in the place of the first. -/
def byName (config : LayoutConfig) : List (String × Layout) :=
  (config.active.map Layout.name).eraseDups.filterMap fun name =>
    (config.byName? name).map fun layout => (name, layout)

end LayoutConfig

end FrontPage
