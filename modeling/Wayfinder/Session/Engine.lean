import Wayfinder.Catalog.Basic
import Wayfinder.Resolve.Ranking
import Wayfinder.Session.Roles
import Wayfinder.Preset.Switch

/-!
# The engine

What all sessions share: the registry, the presets of roles and the weights of the ranking.
-/

namespace Wayfinder

/-! ## Failures -/

/-- Why a request to the engine or to a session fails. -/
inductive EngineError
  | registry (fault : RegistryError)
  | catalog (fault : CatalogError)
  | resolve (fault : ResolveError)
  | locked (fault : LockedPreset)
  /-- The node exists, and the user lacks these capabilities to see it. -/
  | notVisible (id : String) (missing : List Capability)
deriving DecidableEq, Repr

namespace EngineError

/-- The wording of a failure. -/
def message : EngineError → String
  | registry e => s!"ontology error: {e.message}"
  | catalog e => s!"catalog error: {e.message}"
  | resolve e => s!"resolve error: {e.message}"
  | locked e => e.message
  | notVisible id _ => s!"node '{id}' is not visible to this session"

/-- The node does not exist or is not for this user. -/
def isNotFound : EngineError → Bool
  | registry (.notFound _) => true
  | notVisible _ _ => true
  | _ => false

end EngineError

/-! ## The engine -/

/-- What all sessions share. -/
structure Engine where
  registry : Registry
  roles : RoleTable := .standard
  weights : Weights := {}

namespace Engine

/-- The nodes that a user with these capabilities may see, by priority. -/
def visible (e : Engine) (granted : TermSet Capability) : List Node :=
  e.registry.visible granted

/-- Resolves a query among the nodes that a user may see. -/
def resolve (e : Engine) (q : Query) (scope : Scope) (granted : TermSet Capability) :
    Except EngineError Resolution :=
  (e.weights.resolve q scope (e.visible granted)).mapError .resolve

end Engine

end Wayfinder
