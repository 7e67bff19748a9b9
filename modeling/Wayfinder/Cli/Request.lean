import Wayfinder.Cli.Options
import Wayfinder.Preset.Switch
import Wayfinder.Resolve.Query

/-!
# Requests on a command line

A command line names one of five commands. Terms may be typed with blanks around them.
-/

namespace Wayfinder.Cli

/-- What is asked for. -/
inductive Command
  /-- The nodes that a user may see, of one domain or of all. -/
  | nodes (granted : TermSet Capability) (domain : Option Domain)
  /-- The policy of a node under a preset, or under its default preset. -/
  | policy (node : String) (preset : Option Preset)
  /-- The node and the link that a query leads to. -/
  | resolve (query : Query) (scope : List String) (granted : TermSet Capability)
  /-- What a switch between two presets does. -/
  | switch (current requested : Preset)
  /-- Whether a catalog is without faults. -/
  | validate (catalog : Option String)

/-- A command with the settings for it. -/
structure Request where
  /-- The settings file. -/
  config : Option String
  /-- The answer is JSON. -/
  json : Bool
  /-- Events are logged as JSON. -/
  logJson : Bool
  command : Command

/-! ## Options -/

/-- Options of every command. -/
def shared : Options :=
  [("--config", .once), ("--json", .flag), ("--log-json", .flag), ("--help", .stops .help),
    ("-h", .stops .help)]

/-- Options in front of the command. -/
def leading : Options :=
  shared ++ [("--version", .stops .version), ("-V", .stops .version)]

/-- A typed term. -/
def term {α : Type} [Term α] (s : String) : Except Stop α :=
  (Term.parse s).mapError fun _ => .refused

/-- The term that an option gives. -/
def termOf {α : Type} [Term α] (g : Given) (option : String) : Except Stop (Option α) :=
  match g.get? option with
  | none => .ok none
  | some s => (term s).map some

/-- A path, which is not empty. -/
def pathOf (g : Given) (option : String) : Except Stop (Option String) :=
  if g.get? option = some "" then .error .refused else .ok (g.get? option)

/-- The capabilities that a user holds, with commas between them; all if none are given. -/
def grantedOf (g : Given) : Except Stop (TermSet Capability) :=
  if g.has "--caps" then do
    let names := (g.all "--caps").flatMap fun s => (s.toList.splitOn ',').map String.ofList
    return .ofList (← names.mapM term)
  else .ok .full

/-! ## Commands -/

/-- The options of a command, and how it is made of what is given. -/
structure CommandForm where
  options : Options
  make : Given → Except Stop Command

/-- There are no operands. -/
def noOperands (g : Given) : Except Stop Unit :=
  if g.operands.isEmpty then .ok () else .error .refused

/-- The form of a command by its name. -/
def commandForm? (name : String) : Option CommandForm :=
  match name with
  | "nodes" => some {
      options := [("--caps", .many), ("--domain", .once)]
      make := fun g => do
        noOperands g
        return .nodes (← grantedOf g) (← termOf g "--domain") }
  | "policy" => some {
      options := [("--preset", .once)]
      make := fun g => do
        let [node] := g.operands | throw .refused
        return .policy node (← termOf g "--preset") }
  | "resolve" => some {
      options := [("--text", .once), ("--intent", .once), ("--entity", .many), ("--scope", .many),
        ("--caps", .many)]
      make := fun g => do
        noOperands g
        let query : Query := {
          text := g.get? "--text"
          intent := ← termOf g "--intent"
          entityHints := ← (g.all "--entity").mapM term }
        return .resolve query (g.all "--scope") (← grantedOf g) }
  | "switch" => some {
      options := [("--from", .once), ("--to", .once)]
      make := fun g => do
        noOperands g
        let some current ← termOf g "--from" | throw .refused
        let some requested ← termOf g "--to" | throw .refused
        return .switch current requested }
  | "validate" => some {
      options := [("--catalog", .once)]
      make := fun g => do
        noOperands g
        return .validate (← pathOf g "--catalog") }
  | _ => none

/-- The request of a command line. A settings file given after the command counts before one given
in front of it. -/
def Request.parse (args : List String) : Except Stop Request := do
  let front ← leading.read false args
  match front.operands with
  | [] => throw .refused
  | name :: args =>
    let some form := commandForm? name | throw (if name = "help" then .help else .refused)
    let g ← Options.read (shared ++ form.options) true args
    let outer ← pathOf front "--config"
    let inner ← pathOf g "--config"
    return {
      config := inner.or outer
      json := front.has "--json" || g.has "--json"
      logJson := front.has "--log-json" || g.has "--log-json"
      command := ← form.make g }

end Wayfinder.Cli
