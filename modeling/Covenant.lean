import Covenant.Binary64.Parse
import Covenant.Binary64.Round
import Covenant.Binary64.Shortest
import Covenant.Binary64.Text
import Covenant.Cli.Grammar
import Covenant.Cli.Inputs
import Covenant.Cli.Parse
import Covenant.Cli.Run
import Covenant.Cli.Similarity
import Covenant.Config.Decode
import Covenant.Config.Environment
import Covenant.Config.FieldPattern
import Covenant.Config.Filter
import Covenant.Config.Loader
import Covenant.Config.Logging
import Covenant.Config.Settings
import Covenant.Contract.Basic
import Covenant.Contract.Error
import Covenant.Contract.Load
import Covenant.Contract.Source
import Covenant.Contract.Summary
import Covenant.Files
import Covenant.Json.Reader
import Covenant.Json.Value
import Covenant.Json.Writer
import Covenant.Main
import Covenant.Net.Address
import Covenant.Net.Hostname
import Covenant.Pattern.Class
import Covenant.Pattern.Compiled
import Covenant.Pattern.Match
import Covenant.Pattern.Parse
import Covenant.Pattern.Syntax
import Covenant.Pointer
import Covenant.Proofs.Binary64.Literal
import Covenant.Proofs.Binary64.Range
import Covenant.Proofs.Config.Fields
import Covenant.Proofs.Config.Layers
import Covenant.Proofs.Config.Overrides
import Covenant.Proofs.Contract.Follow
import Covenant.Proofs.Contract.Pointers
import Covenant.Proofs.Json.Grammar
import Covenant.Proofs.Json.Keys
import Covenant.Proofs.Json.Read
import Covenant.Proofs.Json.Tokens
import Covenant.Proofs.Json.Utf8
import Covenant.Proofs.Pointer.Encoding
import Covenant.Proofs.Pointer.Escape
import Covenant.Proofs.Pointer.Index
import Covenant.Proofs.Route.Canonical
import Covenant.Proofs.Route.Coherence
import Covenant.Proofs.Route.Comparison
import Covenant.Proofs.Route.Literals
import Covenant.Proofs.Route.NormalForm
import Covenant.Proofs.Route.Numeric
import Covenant.Proofs.Route.Resolution
import Covenant.Proofs.Route.Specificity
import Covenant.Proofs.Schema.Halting
import Covenant.Proofs.Schema.Hoist
import Covenant.Proofs.Schema.Inline
import Covenant.Proofs.Schema.Located
import Covenant.Proofs.Schema.Render
import Covenant.Proofs.Schema.Unfold
import Covenant.Proofs.Schema.Verdict
import Covenant.Proofs.Service.Reload
import Covenant.Proofs.SourceIndex.BlockFrames
import Covenant.Proofs.SourceIndex.BlockLayout
import Covenant.Proofs.SourceIndex.BlockLines
import Covenant.Proofs.SourceIndex.BlockLocate
import Covenant.Proofs.SourceIndex.FlowRuns
import Covenant.Proofs.SourceIndex.Halting
import Covenant.Proofs.SourceIndex.JsonRuns
import Covenant.Proofs.SourceIndex.JsonWalk
import Covenant.Proofs.SourceIndex.Locate
import Covenant.Proofs.SourceIndex.Loops
import Covenant.Proofs.Text.Lines
import Covenant.Proofs.Text.Separator
import Covenant.Proofs.Text.Split
import Covenant.Proofs.Yaml.Layout
import Covenant.Proofs.Yaml.Render
import Covenant.Proofs.Yaml.Style
import Covenant.Proofs.Yaml.Writer
import Covenant.Report
import Covenant.Route.Numeric
import Covenant.Route.Resolve
import Covenant.Route.Template
import Covenant.Schema.Check
import Covenant.Schema.Draft
import Covenant.Schema.Engine
import Covenant.Schema.Format
import Covenant.Schema.Meta.Basic
import Covenant.Schema.Meta.Classic
import Covenant.Schema.Meta.Vocabulary
import Covenant.Schema.Number
import Covenant.Schema.Prepared
import Covenant.Schema.Registry
import Covenant.Service.Gateway
import Covenant.Service.Resolution
import Covenant.SourceIndex.Basic
import Covenant.SourceIndex.Block
import Covenant.SourceIndex.Flow
import Covenant.SourceIndex.JsonText
import Covenant.SourceIndex.Scan
import Covenant.Text.Base64
import Covenant.Text.Blank
import Covenant.Text.Escape
import Covenant.Text.Punycode
import Covenant.Text.Unicode.Bidi
import Covenant.Text.Unicode.Binary
import Covenant.Text.Unicode.Case
import Covenant.Text.Unicode.Category
import Covenant.Text.Unicode.Mapping
import Covenant.Text.Unicode.Property
import Covenant.Text.Unicode.Runs
import Covenant.Text.Unicode.Script
import Covenant.Text.Unicode.Segment
import Covenant.Text.Upper
import Covenant.Toml.Basic
import Covenant.Toml.Document
import Covenant.Toml.Scalar
import Covenant.Uri.Reference
import Covenant.Yaml.Document
import Covenant.Yaml.Emit
import Covenant.Yaml.Event
import Covenant.Yaml.Token
