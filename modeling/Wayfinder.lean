import Wayfinder.Catalog.Basic
import Wayfinder.Catalog.Standard
import Wayfinder.Cli.Options
import Wayfinder.Cli.Report
import Wayfinder.Cli.Request
import Wayfinder.Cli.Run
import Wayfinder.Config.Basic
import Wayfinder.Config.Load
import Wayfinder.Config.LogFilter
import Wayfinder.Data.Tree
import Wayfinder.Files.Path
import Wayfinder.Files.Tree
import Wayfinder.Filter.Data
import Wayfinder.Filter.Query
import Wayfinder.Filter.Schema
import Wayfinder.Filter.State
import Wayfinder.Filter.Store
import Wayfinder.Json.Basic
import Wayfinder.Json.Reader
import Wayfinder.Json.Writer
import Wayfinder.Link.Template
import Wayfinder.Main
import Wayfinder.Node.Basic
import Wayfinder.Node.Data
import Wayfinder.OrderedMap
import Wayfinder.Policy.Basic
import Wayfinder.Policy.Data
import Wayfinder.Policy.Effective
import Wayfinder.Preset.Basic
import Wayfinder.Preset.Switch
import Wayfinder.Registry.Basic
import Wayfinder.Resolve.Data
import Wayfinder.Resolve.Query
import Wayfinder.Resolve.Ranking
import Wayfinder.Resolve.Weights
import Wayfinder.Session.Basic
import Wayfinder.Session.Engine
import Wayfinder.Session.Roles
import Wayfinder.Session.Screen
import Wayfinder.Text.Basic
import Wayfinder.Text.Digits
import Wayfinder.Text.Display
import Wayfinder.Text.Lower
import Wayfinder.Text.Utf8
import Wayfinder.Text.Words
import Wayfinder.Toml.Basic
import Wayfinder.Toml.Reader
import Wayfinder.Toml.Scalar
import Wayfinder.Toml.Table
import Wayfinder.Url.Form
import Wayfinder.Vocabulary.Term
import Wayfinder.Vocabulary.TermSet
import Wayfinder.Vocabulary.Terms
import Wayfinder.Yaml.Basic
import Wayfinder.Yaml.Reader
import Wayfinder.Yaml.Scalar
import Wayfinder.Yaml.Source
import Wayfinder.Yaml.Token
import Wayfinder.Proofs.Text.Utf8
import Wayfinder.Proofs.Url.Form
import Wayfinder.Proofs.Filter.RoundTrip
import Wayfinder.Proofs.Registry.Lookup
import Wayfinder.Proofs.Resolve.Ranking
import Wayfinder.Proofs.Session.Visibility
import Wayfinder.Proofs.Resolve.Score
import Wayfinder.Proofs.Session.Resolution
import Wayfinder.Proofs.Preset.Runs
import Wayfinder.Proofs.Filter.Active
import Wayfinder.Proofs.Filter.Edits
import Wayfinder.Proofs.Filter.Reload
import Wayfinder.Proofs.Session.Switching
import Wayfinder.Proofs.Session.Screens
import Wayfinder.Proofs.Filter.Canonical
import Wayfinder.Proofs.Registry.Listing
import Wayfinder.Proofs.Session.Grants
import Wayfinder.Proofs.Json.Scalar
import Wayfinder.Proofs.Json.Reads
import Wayfinder.Proofs.Json.RoundTrip
import Wayfinder.Proofs.Json.Codec
import Wayfinder.Proofs.Policy.Codec
import Wayfinder.Proofs.Catalog.RoundTrip
import Wayfinder.Proofs.Registry.Construction
import Wayfinder.Proofs.Registry.Links
import Wayfinder.Proofs.Filter.Counter
import Wayfinder.Proofs.Session.Defaults
import Wayfinder.Proofs.Resolve.Selection
import Wayfinder.Proofs.Resolve.Breakdown
import Wayfinder.Proofs.Text.Lower
import Wayfinder.Proofs.Text.Words
import Wayfinder.Proofs.Filter.Segments
import Wayfinder.Proofs.Resolve.Keywords
import Wayfinder.Proofs.FirstFault
import Wayfinder.Proofs.Named
import Wayfinder.Proofs.Since
import Wayfinder.Proofs.Filter.Validation
import Wayfinder.Proofs.Filter.Codec
import Wayfinder.Proofs.Filter.Visible
import Wayfinder.Proofs.Filter.History
import Wayfinder.Proofs.Session.Roles
import Wayfinder.Proofs.Link.Occurrences
import Wayfinder.Proofs.Text.Lowered
import Wayfinder.Proofs.Text.Normal
import Wayfinder.Proofs.Resolve.Spellings
