import Wayfinder.Link.Template
import Wayfinder.Policy.Effective

/-!
# Nodes of the navigation map

A node is a screen of the application: where it is, who may see it, what it is about, how it looks
under each preset, and which links lead to it.
-/

namespace Wayfinder

/-- A screen of the application. -/
structure Node where
  id : String
  label : String
  route : String
  domain : Domain
  /-- What a user must hold to see the screen. -/
  requiredCapabilities : TermSet Capability := .empty
  intents : TermSet Intent := .empty
  /-- Questions that the screen answers. -/
  questions : List String := []
  entities : TermSet Entity := .empty
  keywords : List String := []
  metrics : List String := []
  defaultPreset : Preset := Preset.baseline
  policies : Policies := {}
  links : List Link.Template := []
  /-- Screens of lower priority come first. -/
  priority : Int32 := 0
  /-- Scope parameters that the screen makes use of. -/
  scopeHints : List String := []

namespace Node

/-- A user with these capabilities may see the screen. -/
def permits (n : Node) (granted : TermSet Capability) : Bool :=
  granted.covers n.requiredCapabilities

/-- The policy declared for exactly this preset. -/
def policy? (n : Node) (p : Preset) : Option Policy :=
  n.policies.get? p

/-- The default preset has a policy of its own. -/
def hasDefaultPolicy (n : Node) : Bool :=
  (n.policy? n.defaultPreset).isSome

/-- The policy in effect under a preset. -/
def effectivePolicy (n : Node) (requested : Preset) : EffectivePolicy :=
  .choose n.policies n.defaultPreset requested

end Node

end Wayfinder
