import MapLoom.Command.Arguments
import MapLoom.Command.Perform
import MapLoom.Command.Plain
import MapLoom.Command.Reach
import MapLoom.Decimal.Binary64
import MapLoom.Decimal.Layout
import MapLoom.Decimal.Power
import MapLoom.Decimal.Reading
import MapLoom.Decimal.Shortest
import MapLoom.Files.Failure
import MapLoom.Files.Path
import MapLoom.Files.Tree
import MapLoom.Main
import MapLoom.Project.Config
import MapLoom.Project.Context
import MapLoom.Project.Error
import MapLoom.Project.Modules
import MapLoom.Project.Registry
import MapLoom.Project.Run
import MapLoom.Project.Settings
import MapLoom.Proofs.Decimal.Literal
import MapLoom.Proofs.Decimal.Whole
import MapLoom.Proofs.Files.Listing
import MapLoom.Proofs.Files.Path
import MapLoom.Proofs.Files.Store
import MapLoom.Proofs.Output.Declarations
import MapLoom.Proofs.Output.Interface
import MapLoom.Proofs.Output.Loader
import MapLoom.Proofs.Output.Owners
import MapLoom.Proofs.Output.Printing
import MapLoom.Proofs.Project.Ignored
import MapLoom.Proofs.Project.Process
import MapLoom.Proofs.Project.Rerun
import MapLoom.Proofs.Project.Resolution
import MapLoom.Proofs.Project.Runs
import MapLoom.Proofs.Project.SearchPath
import MapLoom.Proofs.Project.Templates
import MapLoom.Proofs.Project.Unclosed
import MapLoom.Proofs.Project.Worklist
import MapLoom.Proofs.Schema.Arithmetic
import MapLoom.Proofs.Schema.Bands
import MapLoom.Proofs.Schema.Edits
import MapLoom.Proofs.Schema.FaultPrefix
import MapLoom.Proofs.Schema.Faults
import MapLoom.Proofs.Schema.Grammar
import MapLoom.Proofs.Schema.Ranges
import MapLoom.Proofs.Schema.Reordering
import MapLoom.Proofs.Schema.Scalars
import MapLoom.Proofs.Template.BundledText
import MapLoom.Proofs.Template.Writing
import MapLoom.Proofs.Text.Blank
import MapLoom.Proofs.Text.Infix
import MapLoom.Proofs.Text.Lines
import MapLoom.Proofs.Text.Numeral
import MapLoom.Proofs.Text.Order
import MapLoom.Proofs.Weave.Frame
import MapLoom.Proofs.Weave.Gate
import MapLoom.Proofs.Weave.LineEnds
import MapLoom.Proofs.Weave.Pairs
import MapLoom.Proofs.Weave.Partition
import MapLoom.Proofs.Weave.Rescan
import MapLoom.Proofs.Weave.Spelling
import MapLoom.Proofs.Weave.Turns
import MapLoom.Proofs.Weave.Written
import MapLoom.Proofs.Yaml.Value
import MapLoom.Schema.AddressMap
import MapLoom.Schema.Entry
import MapLoom.Schema.Error
import MapLoom.Schema.Listing
import MapLoom.Schema.Literal
import MapLoom.Schema.Load
import MapLoom.Schema.Naming
import MapLoom.Schema.NodePath
import MapLoom.Schema.Ranges
import MapLoom.Schema.Reading
import MapLoom.Template.Bundled
import MapLoom.Template.Filter
import MapLoom.Template.Lexeme
import MapLoom.Template.Reading
import MapLoom.Template.Render
import MapLoom.Template.Tree
import MapLoom.Template.Value
import MapLoom.Text.Alphanumeric
import MapLoom.Text.Basic
import MapLoom.Text.Blank
import MapLoom.Text.Case
import MapLoom.Text.Integer
import MapLoom.Text.Lines
import MapLoom.Text.Order
import MapLoom.Text.Words
import MapLoom.Toml.Document
import MapLoom.Toml.Quoted
import MapLoom.Toml.Scalar
import MapLoom.Weave.Assemble
import MapLoom.Weave.Marker
import MapLoom.Weave.Scan
import MapLoom.Yaml.Block
import MapLoom.Yaml.Cursor
import MapLoom.Yaml.Document
import MapLoom.Yaml.Gap
import MapLoom.Yaml.Layout
import MapLoom.Yaml.Node
import MapLoom.Yaml.Plain
import MapLoom.Yaml.Quoted
import MapLoom.Yaml.Scalar
import MapLoom.Yaml.Tag
import MapLoom.Yaml.Token
import MapLoom.Yaml.Value
import MapLoom.Proofs.Schema.Collision
import MapLoom.Proofs.Output.Printer
import MapLoom.Proofs.Output.Unmapped
import MapLoom.Proofs.Command.FullRun
import MapLoom.Proofs.Files.Dots
import MapLoom.Proofs.Project.Absolute
import MapLoom.Proofs.Project.Order
import MapLoom.Proofs.Command.SingleFile
import MapLoom.Proofs.Weave.Normalize
import MapLoom.Proofs.Text.LineFeeds
import MapLoom.Proofs.Weave.Homogeneous
import MapLoom.Proofs.Output.Identifiers
import MapLoom.Proofs.Schema.Types
import MapLoom.Proofs.Weave.Trimming
import MapLoom.Proofs.Schema.WrittenIntegers
import MapLoom.Proofs.Output.Widths
import MapLoom.Proofs.Text.Pieces
import MapLoom.Proofs.Schema.Indentation
import MapLoom.Proofs.Schema.Listing
import MapLoom.Proofs.Project.Overlay
import MapLoom.Proofs.Command.Discovery
