import Wayfinder.Vocabulary.Terms
import Wayfinder.Preset.Basic
import Wayfinder.OrderedMap

/-!
# View policies

What a preset does to a screen: how dense it is, whether the side panel is open, which filters it
starts with, which columns it hides, which metrics it puts forward, and what it offers to do.
-/

namespace Wayfinder

/-! ## Density and panel -/

/-- How much a screen shows at once. -/
inductive Density
  | compact | standard | detailed
deriving DecidableEq, Repr

namespace Density

/-- The spelling of a density. -/
def name : Density → String
  | compact => "compact"
  | standard => "standard"
  | detailed => "detailed"

instance : Term Density where
  all := [compact, standard, detailed]
  kind := "density"
  name := name
  mem_all a := by cases a <;> decide
  nodup_all := by decide
  name_injective a b := by cases a <;> cases b <;> decide

/-- The density as reports title it. -/
def title : Density → String
  | compact => "Compact"
  | standard => "Standard"
  | detailed => "Detailed"

end Density

/-- The side panel when a screen opens. -/
inductive Panel
  | closed | opened
deriving DecidableEq, Repr

namespace Panel

/-- The spelling of a panel state. -/
def name : Panel → String
  | closed => "closed"
  | opened => "open"

instance : Term Panel where
  all := [closed, opened]
  kind := "panel state"
  name := name
  mem_all a := by cases a <;> decide
  nodup_all := by decide
  name_injective a b := by cases a <;> cases b <;> decide

/-- The panel state as reports title it. -/
def title : Panel → String
  | closed => "Closed"
  | opened => "Open"

end Panel

/-! ## Values of filters -/

/-- The value of a filter: a toggle or a text. -/
inductive FilterValue
  | flag (b : Bool)
  | text (s : String)
deriving DecidableEq, Repr

namespace FilterValue

/-- The value narrows the view: a toggle that is on, a text that is not empty. -/
def isActive : FilterValue → Bool
  | flag b => b
  | text s => !s.isEmpty

/-- The value as a text. -/
def display : FilterValue → String
  | flag b => if b then "true" else "false"
  | text s => s

/-- The text of a text value. -/
def text? : FilterValue → Option String
  | flag _ => none
  | text s => some s

/-- The state of a toggle. -/
def flag? : FilterValue → Option Bool
  | flag b => some b
  | text _ => none

end FilterValue

/-! ## Actions and policies -/

/-- Something a screen offers to do. -/
structure Action where
  key : String
  label : String
  /-- The capability that the user must hold. -/
  requiredCapability : Option Capability := none
  /-- The action changes things. -/
  mutating : Bool := false
deriving DecidableEq, Repr

/-- What a preset does to a screen. -/
structure Policy where
  density : Density := .standard
  panel : Panel := .closed
  /-- Filters of a screen that is opened without any. -/
  defaultFilters : OrderedMap FilterValue := {}
  hiddenColumns : List String := []
  highlightedMetrics : List String := []
  suggestedActions : List Action := []
deriving DecidableEq

/-- The policy where none is declared. -/
def Policy.baseline : Policy := {}

end Wayfinder
