import Wayfinder.Session.Engine
import Wayfinder.Resolve.Data

/-!
# Settings

What a deployment can set: the catalog, the presets of roles, the weights of the ranking, and how
events are logged. Every setting has a default.
-/

namespace Wayfinder

/-- The settings of a deployment. -/
structure Config where
  /-- The catalog file; without one the standard catalog is used. -/
  catalogPath : Option String := none
  /-- The preset of roles that have none. -/
  baseline : Preset := Preset.baseline
  /-- Presets of roles, over those of the built-in roles. -/
  rolePresets : OrderedMap Preset := {}
  /-- Which events are logged. -/
  logFilter : String := "info"
  /-- Events are logged as JSON. -/
  logJson : Bool := false
  weights : Weights := {}
deriving DecidableEq

namespace Config

/-- The presets of roles under these settings. Of names with the same normal form, the last in
ascending order counts. -/
def roleTable (c : Config) : RoleTable :=
  (RoleTable.standard.withBaseline c.baseline).merge c.rolePresets.sorted

/-- The engine over a registry under these settings. -/
def engine (c : Config) (registry : Registry) : Engine :=
  ⟨registry, c.roleTable, c.weights⟩

/-! ## Data files -/

open DataTree

variable {V : Type} [DataTree V]

/-- Reads settings. -/
def read? (v : V) : Option Config := do
  let fs ← fields? ["catalog_path", "baseline_preset", "role_presets", "log_filter", "log_json",
    "resolver"] v
  return {
    catalogPath := ← field? fs "catalog_path" (nullable text?) none
    baseline := ← field? fs "baseline_preset" term? Preset.baseline
    rolePresets := ← field? fs "role_presets" (mapOf? term?) {}
    logFilter := ← field? fs "log_filter" text? "info"
    logJson := ← field? fs "log_json" flag? false
    weights := ← field? fs "resolver" Weights.read? {} }

/-- All settings, the catalog file only if there is one. -/
def toJson (c : Config) : Json :=
  .objOf [
    ("catalog_path", c.catalogPath.map .str),
    ("baseline_preset", some (.term c.baseline)),
    ("role_presets", some (.obj (c.rolePresets.sorted.map fun e => (e.1, .term e.2)))),
    ("log_filter", some (.str c.logFilter)),
    ("log_json", some (.bool c.logJson)),
    ("resolver", some c.weights.toJson)]

end Config

end Wayfinder
