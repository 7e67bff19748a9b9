import Wayfinder.Catalog.Standard
import Wayfinder.Files.Path
import Wayfinder.Json.Reader
import Wayfinder.Node.Data
import Wayfinder.Registry.Basic
import Wayfinder.Yaml.Reader

/-!
# Catalogs

A catalog is a document that lists nodes. Reading one gives a registry, or says whether the
document or the nodes in it are at fault. Catalogs are written as JSON or as YAML: a file whose name
ends in `.json` holds a catalog in JSON, and every other one a catalog in YAML.
-/

namespace Wayfinder

/-- Why a catalog gives no registry. -/
inductive CatalogError
  | io (path : String)
  | yaml
  | json
  | invalid (fault : RegistryError)
deriving DecidableEq, Repr

/-- The wording of a failure; what a parser found is not part of it. -/
def CatalogError.message : CatalogError → String
  | io path => s!"io error reading {path}"
  | yaml => "yaml error"
  | json => "json error"
  | invalid fault => s!"invalid catalog: {fault.message}"

namespace Catalog

open DataTree

/-! ## Documents -/

/-- Reads the nodes of a document; without a list of nodes there are none. -/
def nodes? {V : Type} [DataTree V] (v : V) : Option (List Node) := do
  let fs ← fields? ["nodes"] v
  field? fs "nodes" (listOf? Node.read?) []

/-- The document that lists nodes. -/
def toJson (ns : List Node) : Json :=
  .obj [("nodes", .arr (ns.map Node.toJson))]

/-- The registry of a document of a format; `malformed` is the error of a document that is none. -/
def registry {V : Type} [DataTree V] (malformed : CatalogError) (document : Option V) :
    Except CatalogError Registry :=
  match document.bind nodes? with
  | none => .error malformed
  | some ns => (Registry.ofNodes ns).mapError .invalid

/-! ## Files -/

/-- The registry of a catalog in JSON. -/
def ofJson (text : String) : Except CatalogError Registry :=
  registry .json (Json.ofText? text)

/-- The registry of a catalog in YAML. -/
def ofYaml (text : String) : Except CatalogError Registry :=
  registry .yaml (Yaml.ofText? text)

/-- The file holds JSON. -/
def isJsonPath (path : String) : Bool :=
  (Path.extension? path).any (Term.foldCase · = "json")

/-- The registry of the catalog in the file at `path`; `read` gives the text of a file. -/
def load {m : Type → Type} [Monad m] (read : String → m (Option String)) (path : String) :
    m (Except CatalogError Registry) := do
  match ← read path with
  | none => return .error (.io path)
  | some text => return if isJsonPath path then ofJson text else ofYaml text

/-! ## The standard catalog -/

theorem firstFault?_standard : firstFault? [] StandardCatalog.nodes = none := by
  decide +kernel

/-- The registry of the standard catalog. -/
def standard : Registry :=
  have ok := firstFault?_eq_none firstFault?_standard
  ⟨StandardCatalog.nodes, ok.1, ok.2.1, ok.2.2.1⟩

end Catalog

end Wayfinder
