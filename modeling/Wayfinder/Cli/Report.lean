import Wayfinder.Catalog.Basic
import Wayfinder.Json.Writer
import Wayfinder.Preset.Switch
import Wayfinder.Resolve.Ranking
import Wayfinder.Text.Display

/-!
# Reports

What the commands print, as lines of text or as JSON.
-/

namespace Wayfinder.Cli

/-- Something to print in two forms. -/
structure Report where
  lines : List String
  json : Json

/-- The report in one of its forms. -/
def Report.print (r : Report) (json : Bool) : String :=
  if json then r.json.pretty ++ "\n" else String.join (r.lines.map (· ++ "\n"))

/-- A list of nodes, one to a line. -/
def nodesReport (ns : List Node) : Report where
  lines := ns.map fun n =>
    Text.padRight 16 n.id ++ " " ++ Text.padLeft 4 (toString n.priority.toInt) ++ "  " ++
      Text.padRight 12 n.domain.name ++ " " ++ n.route
  json := .arr (ns.map Node.toJson)

/-- A filter value with its kind. -/
def showValue : FilterValue → String
  | .flag b => if b then "Flag(true)" else "Flag(false)"
  | .text s => "Text(" ++ Text.quoted s ++ ")"

/-- A line that lists texts, unless there are none. -/
def listLine (label : String) (items : List String) : List String :=
  if items.isEmpty then [] else [label ++ ", ".intercalate items]

/-- The policy in effect for a node. -/
def policyReport (n : Node) (e : EffectivePolicy) : Report where
  lines :=
    let p := e.policy
    [ "Node:        " ++ n.id,
      "Preset:      " ++ e.requested.name ++ " (" ++ e.source.title ++ ")",
      "Density:     " ++ p.density.title,
      "Right panel: " ++ p.panel.title ] ++
    p.defaultFilters.entries.map (fun f => "Filter:      " ++ f.1 ++ " = " ++ showValue f.2) ++
    listLine "Hidden:      " p.hiddenColumns ++
    listLine "Metrics:     " p.highlightedMetrics ++
    p.suggestedActions.map fun a =>
      "Action:      " ++ a.key ++ " " ++ (a.requiredCapability.map Capability.name).getD "" ++
        if a.mutating then " [mutating]" else ""
  json := Json.sorted (.obj [
    ("node_id", .str n.id),
    ("requested", .term e.requested),
    ("source", .str e.source.name),
    ("policy", e.policy.toJson)])

/-- Where a query leads. -/
def resolutionReport (r : Resolution) : Report where
  lines := [r.node.id ++ " (" ++ toString r.score.toNat ++ ") -> " ++ r.link]
  json := Json.sorted (.obj [
    ("node_id", .str r.node.id), ("link", .str r.link), ("score", .int r.score.toNat)])

/-- What a switch does, and where the next one may go. -/
def switchReport (s : Switch) : Report where
  lines := [
    s.previous.name ++ " -> " ++ s.next.name ++ " (read-only: " ++
      (if s.readOnly then "true" else "false") ++ ")",
    "Next targets: " ++ ", ".intercalate (s.next.targets.map Preset.name)]
  json := .obj [
    ("previous", .term s.previous), ("next", .term s.next), ("read_only", .bool s.readOnly)]

/-- The size of a catalog, and the nodes whose default preset has no policy. -/
def catalogReport (r : Registry) : Report where
  lines :=
    s!"Catalog OK: {r.size} nodes" :: bare.map fun id =>
      "  note: '" ++ id ++ "' has no policy for its default preset; baseline applies"
  json := Json.sorted (.obj [
    ("nodes", .int r.size), ("without_default_policy", .texts bare)])
where
  /-- The ids of those nodes. -/
  bare : List String := (r.nodes.filter (!·.hasDefaultPolicy)).map Node.id

end Wayfinder.Cli
