import Wayfinder.Cli.Report
import Wayfinder.Cli.Request
import Wayfinder.Config.Load
import Wayfinder.Config.LogFilter

/-!
# Commands carried out

A command line is read, then the settings, then the catalog; the first step that fails ends the run
and says why.
-/

namespace Wayfinder.Cli

/-- How a run ends. -/
structure Outcome where
  /-- 0 after a report, 1 after a failure, 2 if the command line was refused. -/
  code : Nat
  output : String := ""
  /-- Why the run failed. -/
  failure : Option String := none
deriving DecidableEq, Repr

/-- The name and the version of the program. -/
def versionText : String := "compass 0.1.0\n"

/-- How the program is called. -/
def helpText : String :=
  "Usage: compass [--config FILE] [--json] [--log-json] COMMAND\n\n" ++
  "Commands:\n" ++
  "  nodes     list the nodes that a user may see\n" ++
  "  policy    show the policy of a node under a preset\n" ++
  "  resolve   resolve a query to a node and a link\n" ++
  "  switch    show what a switch between presets does\n" ++
  "  validate  check a catalog\n"

/-- The outcome of a command line that names no command to carry out. -/
def Stop.outcome : Stop → Outcome
  | refused => { code := 2 }
  | help => { code := 0, output := helpText }
  | version => { code := 0, output := versionText }

/-- A scope parameter as it is typed: a name, blanks around it ignored, and after the first equals
sign its value. -/
def scopePair (s : String) : Except String (String × String) :=
  match splitOption s with
  | (name, some value) => .ok (Text.trim name, value)
  | (_, none) => .error s!"scope parameter '{s}' is not key=value"

variable {m : Type → Type} [Monad m]

/-- Carries out a command under settings; `read` gives the text of a file. -/
def Command.report (read : String → m (Option String)) (c : Config) :
    Command → m (Except String Report)
  | nodes granted domain => do
    let e := (← c.loadEngine read).mapError EngineError.message
    return e.map fun e => nodesReport (match domain with
      | some d => e.registry.visibleIn d granted
      | none => e.visible granted)
  | policy id preset => do
    let e := (← c.loadEngine read).mapError EngineError.message
    return do
      let n ← ((← e).registry.get id).mapError RegistryError.message
      return policyReport n (n.effectivePolicy (preset.getD n.defaultPreset))
  | resolve query scope granted => do
    let e := (← c.loadEngine read).mapError EngineError.message
    return do
      let e ← e
      let scope ← scope.mapM scopePair
      let r ← (e.resolve query (.ofList scope) granted).mapError EngineError.message
      return resolutionReport r
  | switch current requested =>
    return ((current.switch requested).mapError LockedPreset.message).map switchReport
  | validate catalog => do
    let r ← match catalog with
      | some path => Catalog.load read path
      | none => c.loadRegistry read
    return (r.mapError CatalogError.message).map catalogReport

/-- The settings of a request. -/
def Request.settings (read : String → m (Option String)) (r : Request) :
    m (Except String Config) := do
  let c ← match r.config with
    | none => pure (.ok {})
    | some path => return (← Config.load read path).mapError fun _ => s!"loading config {path}"
  return c

/-- Carries out a request. -/
def Request.run (read : String → m (Option String)) (r : Request) : m Outcome := do
  match ← r.settings read with
  | .error e => return { code := 1, failure := some e }
  | .ok c =>
    if !LogFilter.isValid c.logFilter then
      return { code := 1, failure := some "invalid log filter" }
    match ← r.command.report read c with
    | .error e => return { code := 1, failure := some e }
    | .ok report => return { code := 0, output := report.print r.json }

/-- Carries out a command line. -/
def run (read : String → m (Option String)) (args : List String) : m Outcome :=
  match Request.parse args with
  | .error stop => return stop.outcome
  | .ok r => r.run read

end Wayfinder.Cli
