import ServicePublisher.Attributes
import ServicePublisher.Binding.Registry
import ServicePublisher.Binding.Server
import ServicePublisher.Binding.Walk
import ServicePublisher.Call
import ServicePublisher.Config
import ServicePublisher.Description
import ServicePublisher.Error
import ServicePublisher.ExportCounts
import ServicePublisher.Extensions
import ServicePublisher.Interface
import ServicePublisher.Level
import ServicePublisher.Lifecycle
import ServicePublisher.LogFilter
import ServicePublisher.Manifest.Assembly
import ServicePublisher.Manifest.Fields
import ServicePublisher.Manifest.Source
import ServicePublisher.MethodArgs
import ServicePublisher.MethodPolicy
import ServicePublisher.Notice
import ServicePublisher.Pattern.Expression
import ServicePublisher.Pattern.Reader
import ServicePublisher.Pattern.Support
import ServicePublisher.Pattern.Tree
import ServicePublisher.Provider
import ServicePublisher.Reconfiguration
import ServicePublisher.Schedule
import ServicePublisher.ServiceKey
import ServicePublisher.Settings
import ServicePublisher.Shutdown
import ServicePublisher.Simulation.Fault
import ServicePublisher.Simulation.Names
import ServicePublisher.Telemetry
import ServicePublisher.Text.Alphanumeric
import ServicePublisher.Text.Blank
import ServicePublisher.Text.Bytes
import ServicePublisher.Text.Decimal
import ServicePublisher.Text.Digits
import ServicePublisher.Text.Integer
import ServicePublisher.Text.Printable
import ServicePublisher.Text.Quoted
import ServicePublisher.Text.Ranges
import ServicePublisher.Text.Record
import ServicePublisher.Text.Split
import ServicePublisher.Toml.Datetime
import ServicePublisher.Toml.Document
import ServicePublisher.Toml.Item
import ServicePublisher.Toml.Node
import ServicePublisher.Toml.Number
import ServicePublisher.Toml.Quoted
import ServicePublisher.Toml.Reader
import ServicePublisher.Toml.Value
import ServicePublisher.World
import ServicePublisher.Proofs.Books
import ServicePublisher.Proofs.Calls
import ServicePublisher.Proofs.Courses
import ServicePublisher.Proofs.Counts
import ServicePublisher.Proofs.Rebooked
import ServicePublisher.Proofs.Fleet
import ServicePublisher.Proofs.Bindings
import ServicePublisher.Proofs.Coherence
import ServicePublisher.Proofs.Rebound
import ServicePublisher.Proofs.Coverage
import ServicePublisher.Proofs.Orphans
import ServicePublisher.Proofs.Agreement
import ServicePublisher.Proofs.Views
import ServicePublisher.Proofs.Rollback
import ServicePublisher.Proofs.Accepting
import ServicePublisher.Proofs.Siblings
import ServicePublisher.Proofs.Takeover
import ServicePublisher.Proofs.Readmission
import ServicePublisher.Proofs.WriteBack
import ServicePublisher.Proofs.Epochs
import ServicePublisher.Proofs.Deferral
import ServicePublisher.Proofs.Hearing
import ServicePublisher.Proofs.Exchanges
import ServicePublisher.Proofs.Delays
import ServicePublisher.Proofs.Postponement
import ServicePublisher.Proofs.Stock
import ServicePublisher.Proofs.Conduct
import ServicePublisher.Proofs.Tours
import ServicePublisher.Proofs.Traces
import ServicePublisher.Proofs.CallOrder
import ServicePublisher.Proofs.Verdicts
import ServicePublisher.Proofs.Replies
import ServicePublisher.Proofs.Isolation
import ServicePublisher.Proofs.Groups
import ServicePublisher.Proofs.Access
import ServicePublisher.Proofs.Contest
import ServicePublisher.Proofs.Interleavings
import ServicePublisher.Proofs.Shutdowns
import ServicePublisher.Proofs.Creations
import ServicePublisher.Proofs.Parallels
import ServicePublisher.Proofs.Cells
import ServicePublisher.Proofs.Independence
import ServicePublisher.Proofs.Instances
import ServicePublisher.Proofs.Disclosure
import ServicePublisher.Proofs.Episodes
import ServicePublisher.Proofs.Returns
import ServicePublisher.Proofs.Undoing
import ServicePublisher.Proofs.Rosters
import ServicePublisher.Proofs.Completion
import ServicePublisher.Proofs.KeyLists
import ServicePublisher.Proofs.Restoration
import ServicePublisher.Proofs.Trimming
import ServicePublisher.Proofs.NameLists
import ServicePublisher.Proofs.ByteOrder
import ServicePublisher.Proofs.Decisions
import ServicePublisher.Proofs.Integers
import ServicePublisher.Proofs.Validation
import ServicePublisher.Proofs.IdleChanges
import ServicePublisher.Proofs.Separation
import ServicePublisher.Proofs.AttributeKeys
import ServicePublisher.Proofs.Decoding
import ServicePublisher.Proofs.References
import ServicePublisher.Proofs.Wrapping
