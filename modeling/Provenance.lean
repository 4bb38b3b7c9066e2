import Provenance.Clone.Directory
import Provenance.Clone.Git
import Provenance.Clone.Root
import Provenance.CodeUnit.Basic
import Provenance.CodeUnit.Build
import Provenance.CodeUnit.Format
import Provenance.CommandLine.Basic
import Provenance.CommandLine.Program
import Provenance.Config.Basic
import Provenance.Config.Read
import Provenance.Decimal.Notation
import Provenance.Decimal.Shortest
import Provenance.Descriptor
import Provenance.Discovery.Bitbucket
import Provenance.Discovery.Discoverer
import Provenance.Discovery.Error
import Provenance.Discovery.Fetch
import Provenance.Discovery.GitHub
import Provenance.Files.Error
import Provenance.Files.Path
import Provenance.Files.Tree
import Provenance.Git.Build
import Provenance.Git.Delta
import Provenance.Git.Head
import Provenance.Git.Rename
import Provenance.Git.Repository
import Provenance.Git.Resemblance
import Provenance.Git.Sha1
import Provenance.Git.Tree
import Provenance.Harvest
import Provenance.History.FileRecord
import Provenance.History.Graph
import Provenance.History.PathMap
import Provenance.History.Table
import Provenance.History.Walk
import Provenance.Http.Client
import Provenance.Http.Headers
import Provenance.Index.Indexer
import Provenance.Index.Report
import Provenance.Json.Basic
import Provenance.Json.Fields
import Provenance.Json.Literal
import Provenance.Json.Parser
import Provenance.Json.Printer
import Provenance.Json.Quoted
import Provenance.Main
import Provenance.Offline
import Provenance.Pipeline.Basic
import Provenance.Pipeline.Cloning
import Provenance.Pipeline.Discovering
import Provenance.Pipeline.Indexing
import Provenance.Pipeline.Rehearsal
import Provenance.Pipeline.Run
import Provenance.Pipeline.Start
import Provenance.Pipeline.Stats
import Provenance.Pipeline.Step
import Provenance.Proofs.Clone.Call
import Provenance.Proofs.Clone.Claim
import Provenance.Proofs.Clone.Contention
import Provenance.Proofs.Clone.Ownership
import Provenance.Proofs.Clone.Restoration
import Provenance.Proofs.Clone.Rooted
import Provenance.Proofs.Clone.Shutdown
import Provenance.Proofs.Clone.Yard
import Provenance.Proofs.CodeUnit.Decoded
import Provenance.Proofs.CodeUnit.Format
import Provenance.Proofs.CodeUnit.Times
import Provenance.Proofs.Config.Constraints
import Provenance.Proofs.Decimal.Finite
import Provenance.Proofs.Decimal.Notation
import Provenance.Proofs.Decimal.Order
import Provenance.Proofs.Decimal.Quotient
import Provenance.Proofs.Discovery.Bitbucket
import Provenance.Proofs.Discovery.GitHub
import Provenance.Proofs.Discovery.Looks
import Provenance.Proofs.Discovery.Ranks
import Provenance.Proofs.Discovery.Seed
import Provenance.Proofs.Discovery.Stars
import Provenance.Proofs.Discovery.Visits
import Provenance.Proofs.Files.Leads
import Provenance.Proofs.Files.Nested
import Provenance.Proofs.Files.Straight
import Provenance.Proofs.Git.Agreement
import Provenance.Proofs.Git.Changes
import Provenance.Proofs.Git.Renames
import Provenance.Proofs.Git.TrackedFiles
import Provenance.Proofs.History.Attribution
import Provenance.Proofs.History.Creation
import Provenance.Proofs.History.Credit
import Provenance.Proofs.History.Failure
import Provenance.Proofs.History.Forks
import Provenance.Proofs.History.Lineage
import Provenance.Proofs.History.Merges
import Provenance.Proofs.History.Origin
import Provenance.Proofs.History.Reach
import Provenance.Proofs.History.Records
import Provenance.Proofs.History.Renames
import Provenance.Proofs.History.Termination
import Provenance.Proofs.History.Turns
import Provenance.Proofs.History.Visits
import Provenance.Proofs.History.Walk
import Provenance.Proofs.Http.Course
import Provenance.Proofs.Http.Link
import Provenance.Proofs.Http.Overflow
import Provenance.Proofs.Http.Response
import Provenance.Proofs.Http.Throttling
import Provenance.Proofs.Http.Traffic
import Provenance.Proofs.Index.Accounting
import Provenance.Proofs.Json.Bytes
import Provenance.Proofs.Json.Finite
import Provenance.Proofs.Json.Literal
import Provenance.Proofs.Json.RoundTrip
import Provenance.Proofs.Pipeline.Answers
import Provenance.Proofs.Pipeline.Backpressure
import Provenance.Proofs.Pipeline.Cancellation
import Provenance.Proofs.Pipeline.Conduct
import Provenance.Proofs.Pipeline.Countdown
import Provenance.Proofs.Pipeline.Custody
import Provenance.Proofs.Pipeline.Delivery
import Provenance.Proofs.Pipeline.Directories
import Provenance.Proofs.Pipeline.Drain
import Provenance.Proofs.Pipeline.ExactlyOnce
import Provenance.Proofs.Pipeline.Move
import Provenance.Proofs.Pipeline.Progress
import Provenance.Proofs.Pipeline.Retries
import Provenance.Proofs.Pipeline.Seeds
import Provenance.Proofs.Pipeline.Storing
import Provenance.Proofs.Pipeline.Tally
import Provenance.Proofs.Pipeline.Worth
import Provenance.Proofs.Queue.Chronicle
import Provenance.Proofs.Queue.Completion
import Provenance.Proofs.Queue.Order
import Provenance.Proofs.Queue.Polls
import Provenance.Proofs.Queue.Wakeup
import Provenance.Proofs.Store.Lines
import Provenance.Proofs.Text.Characters
import Provenance.Proofs.Text.Content
import Provenance.Proofs.Text.Parts
import Provenance.Proofs.Text.Utf8
import Provenance.Proofs.Time.Written
import Provenance.Queue.Basic
import Provenance.Queue.Step
import Provenance.Record
import Provenance.Store.Lines
import Provenance.Text.CaseTable
import Provenance.Text.Charset.Basic
import Provenance.Text.Charset.Big5
import Provenance.Text.Charset.Foreign
import Provenance.Text.Charset.Gbk
import Provenance.Text.Charset.Guess
import Provenance.Text.Charset.Ideographic
import Provenance.Text.Charset.Jis
import Provenance.Text.Charset.Korean
import Provenance.Text.Charset.Latin
import Provenance.Text.Charset.MultiByte
import Provenance.Text.Charset.Ordinal
import Provenance.Text.Charset.Role
import Provenance.Text.Charset.SingleByte
import Provenance.Text.Content
import Provenance.Text.Digits
import Provenance.Text.Language.BaltoSlavic
import Provenance.Text.Language.Basic
import Provenance.Text.Language.Cyrillic
import Provenance.Text.Language.Germanic
import Provenance.Text.Language.Greek
import Provenance.Text.Language.Iranian
import Provenance.Text.Language.Latin
import Provenance.Text.Language.Romance
import Provenance.Text.Language.Semitic
import Provenance.Text.Language.Thai
import Provenance.Text.Lowercase
import Provenance.Text.Split
import Provenance.Text.Utf16
import Provenance.Text.Utf8
import Provenance.Time.Calendar
import Provenance.Time.Written
import Provenance.Toml.Basic
import Provenance.Toml.Key
import Provenance.Toml.Quoted
import Provenance.Toml.Scalar
import Provenance.Toml.Statement
import Provenance.Toml.Tables
