import Wayfinder.Catalog.Basic
import Wayfinder.Config.Basic
import Wayfinder.Toml.Reader

/-!
# Settings in files

Settings are written as TOML. The catalog of a settings file is looked for in the directory of that
file.
-/

namespace Wayfinder

/-- Why there are no settings. -/
inductive ConfigError
  | io (path : String)
  | toml
deriving DecidableEq, Repr

namespace Config

/-- Reads settings. -/
def ofToml (text : String) : Except ConfigError Config :=
  match (Toml.ofText? text).bind read? with
  | some c => .ok c
  | none => .error .toml

/-- The settings with a catalog path that starts in `dir` unless it is absolute. -/
def inDirectory (c : Config) (dir : String) : Config :=
  { c with catalogPath := c.catalogPath.map (Path.join dir) }

variable {m : Type → Type} [Monad m]

/-- The settings in the file at `path`; `read` gives the text of a file. -/
def load (read : String → m (Option String)) (path : String) : m (Except ConfigError Config) := do
  match ← read path with
  | none => return .error (.io path)
  | some text => return (ofToml text).map (·.inDirectory (Path.parent path))

/-- The registry of the catalog that the settings name. -/
def loadRegistry (read : String → m (Option String)) (c : Config) :
    m (Except CatalogError Registry) :=
  match c.catalogPath with
  | some path => Catalog.load read path
  | none => return .ok Catalog.standard

/-- The engine over that registry. -/
def loadEngine (read : String → m (Option String)) (c : Config) :
    m (Except EngineError Engine) := do
  return ((← c.loadRegistry read).mapError .catalog).map c.engine

end Config

end Wayfinder
