import ResolverHooks.Command.Execution
import ResolverHooks.Command.Invocation
import ResolverHooks.Decimal.Double
import ResolverHooks.Decimal.Layout
import ResolverHooks.Decimal.Numeral
import ResolverHooks.Decimal.Shortest
import ResolverHooks.Document.Calendar
import ResolverHooks.Document.Display
import ResolverHooks.Document.Json
import ResolverHooks.Document.Order
import ResolverHooks.Document.Schema
import ResolverHooks.Document.Shape
import ResolverHooks.Document.Table
import ResolverHooks.Document.Unfolding
import ResolverHooks.Document.Value
import ResolverHooks.Hook.Directive
import ResolverHooks.Hook.Entity
import ResolverHooks.Main
import ResolverHooks.Mapping.HookTemplates
import ResolverHooks.Mapping.Node
import ResolverHooks.Naming.LogicalId
import ResolverHooks.Naming.Operation
import ResolverHooks.Naming.Plural
import ResolverHooks.Naming.Sha256
import ResolverHooks.Naming.Target
import ResolverHooks.Pipeline.Arena
import ResolverHooks.Pipeline.Compute
import ResolverHooks.Pipeline.Functions
import ResolverHooks.Pipeline.Request
import ResolverHooks.Pipeline.Resolver
import ResolverHooks.Pipeline.Settings
import ResolverHooks.Pipeline.Transform
import ResolverHooks.Resource.Check
import ResolverHooks.Resource.Diagram
import ResolverHooks.Resource.Graph
import ResolverHooks.Resource.Intrinsic
import ResolverHooks.Resource.Order
import ResolverHooks.Text.Base64
import ResolverHooks.Text.Blank
import ResolverHooks.Text.Boxes
import ResolverHooks.Text.Cluster
import ResolverHooks.Text.Digit
import ResolverHooks.Text.Emoji
import ResolverHooks.Text.EmojiName
import ResolverHooks.Text.Encoding
import ResolverHooks.Text.FileReader
import ResolverHooks.Text.Hex
import ResolverHooks.Text.Literal
import ResolverHooks.Text.Markup
import ResolverHooks.Text.Printable
import ResolverHooks.Text.Ranges
import ResolverHooks.Text.Style
import ResolverHooks.Text.Width
import ResolverHooks.Text.Wrap
import ResolverHooks.Workspace.Configuration
import ResolverHooks.Workspace.Failure
import ResolverHooks.Workspace.Files
import ResolverHooks.Workspace.Loading
import ResolverHooks.Workspace.Path
import ResolverHooks.Yaml.BlockText
import ResolverHooks.Yaml.Composition
import ResolverHooks.Yaml.Construction
import ResolverHooks.Yaml.Cursor
import ResolverHooks.Yaml.Label
import ResolverHooks.Yaml.Lexer
import ResolverHooks.Yaml.Merging
import ResolverHooks.Yaml.Node
import ResolverHooks.Yaml.Number
import ResolverHooks.Yaml.Plain
import ResolverHooks.Yaml.Quoted
import ResolverHooks.Yaml.Reading
import ResolverHooks.Yaml.Resolution
import ResolverHooks.Yaml.Stream
import ResolverHooks.Yaml.Token
import ResolverHooks.Proofs.Document.Checked
import ResolverHooks.Proofs.Document.Table
import ResolverHooks.Proofs.Document.Grammar
import ResolverHooks.Proofs.Resource.Graph
import ResolverHooks.Proofs.Resource.Dependency
import ResolverHooks.Proofs.Resource.Order
import ResolverHooks.Proofs.Resource.Cycle
import ResolverHooks.Proofs.Resource.Waves
import ResolverHooks.Proofs.Resource.Reference
import ResolverHooks.Proofs.Resource.Check
import ResolverHooks.Proofs.Resource.Diagram
import ResolverHooks.Proofs.Resource.Template
import ResolverHooks.Proofs.Resource.Substitution
import ResolverHooks.Proofs.Naming.LogicalId
import ResolverHooks.Proofs.Naming.Material
import ResolverHooks.Proofs.Naming.Plural
import ResolverHooks.Proofs.Naming.Field
import ResolverHooks.Proofs.Naming.Family
import ResolverHooks.Proofs.Pipeline.Effect
import ResolverHooks.Proofs.Pipeline.Replacement
import ResolverHooks.Proofs.Pipeline.Run
import ResolverHooks.Proofs.Pipeline.Progress
import ResolverHooks.Proofs.Pipeline.Extent
import ResolverHooks.Proofs.Pipeline.Outcome
import ResolverHooks.Proofs.Pipeline.Placement
import ResolverHooks.Proofs.Pipeline.Groups
import ResolverHooks.Proofs.Pipeline.Turn
import ResolverHooks.Proofs.Pipeline.Compiled
import ResolverHooks.Proofs.Pipeline.Distinct
import ResolverHooks.Proofs.Pipeline.Provision
import ResolverHooks.Proofs.Pipeline.Closed
import ResolverHooks.Proofs.Pipeline.Permutation
import ResolverHooks.Proofs.Pipeline.Layers
import ResolverHooks.Proofs.Pipeline.Deployment
import ResolverHooks.Proofs.Pipeline.Repetition
import ResolverHooks.Proofs.Pipeline.Residue
import ResolverHooks.Proofs.Pipeline.SharedCompute
import ResolverHooks.Proofs.Pipeline.References
import ResolverHooks.Proofs.Pipeline.Usage
import ResolverHooks.Proofs.Pipeline.Untouched
import ResolverHooks.Proofs.Pipeline.FunctionArn
import ResolverHooks.Proofs.Decimal.Rounding
import ResolverHooks.Proofs.Decimal.Shortest
import ResolverHooks.Proofs.Decimal.Reading
import ResolverHooks.Proofs.Yaml.Scalar
import ResolverHooks.Proofs.Yaml.Flow
import ResolverHooks.Proofs.Yaml.Lookahead
import ResolverHooks.Proofs.Document.Json
import ResolverHooks.Proofs.Yaml.Quoted
import ResolverHooks.Proofs.Yaml.Scan
import ResolverHooks.Proofs.Yaml.Composition
import ResolverHooks.Proofs.Yaml.Construction
import ResolverHooks.Proofs.Text.FileReader
import ResolverHooks.Proofs.Document.Schema
import ResolverHooks.Proofs.Hook.Directive
import ResolverHooks.Proofs.Mapping.Description
import ResolverHooks.Proofs.Yaml.Reading
import ResolverHooks.Proofs.Workspace.Reload
import ResolverHooks.Proofs.Workspace.Loading
import ResolverHooks.Proofs.Workspace.Configuration
