import Stencil.Cluster.Address
import Stencil.Cluster.Connection
import Stencil.Cluster.Inventory
import Stencil.Cluster.Kind
import Stencil.Cluster.Memo
import Stencil.Cluster.Mirroring
import Stencil.Cluster.ObjectList
import Stencil.Cluster.Query
import Stencil.Cluster.Remote
import Stencil.Cluster.Schema
import Stencil.Cluster.Server
import Stencil.Cluster.Sharing
import Stencil.CommandLine.Arguments
import Stencil.CommandLine.Flag
import Stencil.CommandLine.Session
import Stencil.Decimal.Binary
import Stencil.Decimal.Fixed
import Stencil.Decimal.Integer
import Stencil.Decimal.Reading
import Stencil.Decimal.Shortest
import Stencil.Decimal.Width
import Stencil.Filesystem.Access
import Stencil.Filesystem.AtomicWrite
import Stencil.Filesystem.Path
import Stencil.Filesystem.Tree
import Stencil.Json.Number
import Stencil.Json.Printer
import Stencil.Json.Reader
import Stencil.Json.Value
import Stencil.Label.Name
import Stencil.Label.Selector
import Stencil.Label.Token
import Stencil.Machine.Host
import Stencil.Machine.Program
import Stencil.Machine.Signal
import Stencil.Machine.Task
import Stencil.Machine.Utility
import Stencil.Main
import Stencil.Proofs.Cluster.Alike
import Stencil.Proofs.Cluster.Checked
import Stencil.Proofs.Cluster.Key
import Stencil.Proofs.Cluster.Memo
import Stencil.Proofs.Cluster.Mirroring
import Stencil.Proofs.Cluster.Modes
import Stencil.Proofs.Cluster.Order
import Stencil.Proofs.Cluster.Request
import Stencil.Proofs.Cluster.Session
import Stencil.Proofs.Cluster.Sharing
import Stencil.Proofs.Cluster.Transparency
import Stencil.Proofs.Cluster.Undisturbed
import Stencil.Proofs.Cluster.Uninterrupted
import Stencil.Proofs.Decimal.Fixed
import Stencil.Proofs.Decimal.Integer
import Stencil.Proofs.Filesystem.FirstWrite
import Stencil.Proofs.Filesystem.Places
import Stencil.Proofs.Filesystem.Reach
import Stencil.Proofs.Filesystem.Replacement
import Stencil.Proofs.Filesystem.SecondWrite
import Stencil.Proofs.Filesystem.Separate
import Stencil.Proofs.Filesystem.Siblings
import Stencil.Proofs.Filesystem.Staged
import Stencil.Proofs.Filesystem.Steps
import Stencil.Proofs.Filesystem.Straight
import Stencil.Proofs.Filesystem.Walk
import Stencil.Proofs.Filesystem.Written
import Stencil.Proofs.First
import Stencil.Proofs.Label.Grammar
import Stencil.Proofs.Label.Meaning
import Stencil.Proofs.Label.Name
import Stencil.Proofs.Label.Slots
import Stencil.Proofs.Label.Spelling
import Stencil.Proofs.Machine.Group
import Stencil.Proofs.Run
import Stencil.Proofs.Settings.Merge
import Stencil.Proofs.Table
import Stencil.Proofs.Template.Dashes
import Stencil.Proofs.Template.Division
import Stencil.Proofs.Template.Evaluation
import Stencil.Proofs.Template.FixedText
import Stencil.Proofs.Template.Output
import Stencil.Proofs.Template.Parser
import Stencil.Proofs.Template.Quotation
import Stencil.Proofs.Template.Raw
import Stencil.Proofs.Template.RawBlock
import Stencil.Proofs.Template.Rendering
import Stencil.Proofs.Template.Verbatim
import Stencil.Proofs.Text.Find
import Stencil.Proofs.Text.Percent
import Stencil.Proofs.Text.Utf8
import Stencil.Proofs.Upkeep.Agreement
import Stencil.Proofs.Upkeep.Handover
import Stencil.Proofs.Upkeep.Happening
import Stencil.Proofs.Upkeep.Keeping
import Stencil.Proofs.Upkeep.Kill
import Stencil.Proofs.Upkeep.Lifetime
import Stencil.Proofs.Upkeep.Progress
import Stencil.Proofs.Upkeep.Repetition
import Stencil.Proofs.Upkeep.Restart
import Stencil.Proofs.Upkeep.Round
import Stencil.Proofs.Upkeep.Schedule
import Stencil.Proofs.Upkeep.Succession
import Stencil.Proofs.Upkeep.Trial
import Stencil.Proofs.Upkeep.Verdict
import Stencil.Settings.Config
import Stencil.Settings.Descriptor
import Stencil.Shell.Arithmetic
import Stencil.Shell.Condition
import Stencil.Shell.Expansion
import Stencil.Shell.Interpreter
import Stencil.Shell.Parser
import Stencil.Shell.Pattern
import Stencil.Shell.Printing
import Stencil.Shell.State
import Stencil.Shell.Syntax
import Stencil.Template.Data
import Stencil.Template.Delimiter
import Stencil.Template.Engine
import Stencil.Template.Evaluation
import Stencil.Template.Expr
import Stencil.Template.ExprParser
import Stencil.Template.Fault
import Stencil.Template.Filter.Argument
import Stencil.Template.Filter.Date
import Stencil.Template.Filter.Escape
import Stencil.Template.Filter.Number
import Stencil.Template.Filter.Sequence
import Stencil.Template.Filter.Table
import Stencil.Template.Filter.Text
import Stencil.Template.Function
import Stencil.Template.Node
import Stencil.Template.NodeParser
import Stencil.Template.Parser
import Stencil.Template.Program
import Stencil.Template.Rendering
import Stencil.Template.Resource
import Stencil.Template.Scope
import Stencil.Template.Test
import Stencil.Template.Trimming
import Stencil.Text.Blank
import Stencil.Text.Case
import Stencil.Text.CaseTable
import Stencil.Text.CharRanges
import Stencil.Text.Cluster
import Stencil.Text.ClusterTable
import Stencil.Text.Find
import Stencil.Text.LetterTable
import Stencil.Text.Percent
import Stencil.Text.Quoted
import Stencil.Text.Regex
import Stencil.Text.Romanized
import Stencil.Text.Utf8
import Stencil.Text.VisibleTable
import Stencil.Text.WordTable
import Stencil.Time.Duration
import Stencil.Time.Moment
import Stencil.Time.Pattern
import Stencil.Upkeep.Binding
import Stencil.Upkeep.Course
import Stencil.Upkeep.Execution
import Stencil.Upkeep.Keeper
import Stencil.Upkeep.Loop
import Stencil.Upkeep.Output
import Stencil.Upkeep.Pipeline
import Stencil.Upkeep.Round
import Stencil.Upkeep.Running
import Stencil.Upkeep.Schedule
import Stencil.Upkeep.Site
import Stencil.Upkeep.Supervision
import Stencil.Yaml.Cursor
import Stencil.Yaml.Node
import Stencil.Yaml.Scalar
import Stencil.Yaml.Token
import Stencil.Proofs.Settings.Line
import Stencil.Proofs.Upkeep.Delivery
import Stencil.Proofs.Settings.Declaration
import Stencil.Proofs.Cluster.Inventory
import Stencil.Proofs.Template.Arguments
import Stencil.Proofs.Upkeep.Rehearsal
import Stencil.Proofs.Filesystem.Canonical
import Stencil.Proofs.Shell.Word
import Stencil.Proofs.Upkeep.Invocation
import Stencil.Proofs.Label.Lexemes
import Stencil.Proofs.Label.Expectation
import Stencil.Proofs.Label.Position
import Stencil.Proofs.Text.Lines
import Stencil.Proofs.Upkeep.Output
import Stencil.Proofs.Template.Arithmetic
