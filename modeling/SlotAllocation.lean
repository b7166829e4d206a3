import SlotAllocation.Assignment.Basic
import SlotAllocation.Assignment.Cascade
import SlotAllocation.Assignment.Document
import SlotAllocation.Assignment.Engine
import SlotAllocation.Assignment.Forced
import SlotAllocation.Assignment.Matching
import SlotAllocation.Assignment.Summary
import SlotAllocation.Assignment.Verify
import SlotAllocation.Batch.Basic
import SlotAllocation.Batch.Report
import SlotAllocation.Batch.Summary
import SlotAllocation.Cli.Commands
import SlotAllocation.Cli.Completion
import SlotAllocation.Cli.Flags
import SlotAllocation.Cli.Program
import SlotAllocation.Cli.Scripts
import SlotAllocation.Decimal.Format
import SlotAllocation.Decimal.Rounded
import SlotAllocation.Decimal.Shortest
import SlotAllocation.Digest.NameId
import SlotAllocation.Digest.Sha1
import SlotAllocation.Failure.Basic
import SlotAllocation.Json.Bind
import SlotAllocation.Json.Canonical
import SlotAllocation.Json.Parse
import SlotAllocation.Json.Print
import SlotAllocation.Json.Value
import SlotAllocation.Main
import SlotAllocation.Net.IpAddress
import SlotAllocation.Net.MailAddress
import SlotAllocation.Net.Url
import SlotAllocation.Pattern.CharSet
import SlotAllocation.Pattern.Search
import SlotAllocation.Pattern.Syntax
import SlotAllocation.Proofs.CacheCoherence
import SlotAllocation.Proofs.Cascade
import SlotAllocation.Proofs.Checks
import SlotAllocation.Proofs.Committed
import SlotAllocation.Proofs.ComputeJob
import SlotAllocation.Proofs.DefaultEngine
import SlotAllocation.Proofs.DeferredAcceptance
import SlotAllocation.Proofs.Engine
import SlotAllocation.Proofs.FailedSummaryWrite
import SlotAllocation.Proofs.FillJob
import SlotAllocation.Proofs.ForcingLater
import SlotAllocation.Proofs.Forced
import SlotAllocation.Proofs.FreeSeats
import SlotAllocation.Proofs.JobEffects
import SlotAllocation.Proofs.NoTrace
import SlotAllocation.Proofs.ProposalLoop
import SlotAllocation.Proofs.Refill
import SlotAllocation.Proofs.Triple
import SlotAllocation.Proofs.NotifyOnce
import SlotAllocation.Proofs.JsonRoundTrip
import SlotAllocation.Proofs.ResultDocument
import SlotAllocation.Proofs.RunThenVerify
import SlotAllocation.Proofs.RetriedCompute
import SlotAllocation.Proofs.RetryBudget
import SlotAllocation.Proofs.SeatPool
import SlotAllocation.Proofs.Stability
import SlotAllocation.Proofs.BatchLock
import SlotAllocation.Proofs.Table
import SlotAllocation.Proofs.Work
import SlotAllocation.Proofs.FirstViolation
import SlotAllocation.Proofs.SummaryStatistics
import SlotAllocation.Proofs.CleanPreferences
import SlotAllocation.Proofs.NotificationKey
import SlotAllocation.Proofs.Report
import SlotAllocation.Proofs.TopicSubject
import SlotAllocation.Service.Cache
import SlotAllocation.Service.Compute
import SlotAllocation.Service.Document
import SlotAllocation.Service.Fill
import SlotAllocation.Service.Indexing
import SlotAllocation.Service.Job
import SlotAllocation.Service.Notify
import SlotAllocation.Service.Relational
import SlotAllocation.Service.Requests
import SlotAllocation.Service.World
import SlotAllocation.Settings.Basic
import SlotAllocation.Settings.Decode
import SlotAllocation.Settings.Document
import SlotAllocation.Settings.Environment
import SlotAllocation.Settings.Load
import SlotAllocation.Settings.Sources
import SlotAllocation.Settings.Tasks
import SlotAllocation.Store.Keys
import SlotAllocation.Table
import SlotAllocation.Text.Base64
import SlotAllocation.Text.Bytes
import SlotAllocation.Text.Case
import SlotAllocation.Text.EmailAddress
import SlotAllocation.Text.Numeral
import SlotAllocation.Text.Printable
import SlotAllocation.Text.Quoted
import SlotAllocation.Text.Unicode
import SlotAllocation.Time.Duration
import SlotAllocation.Time.Instant
import SlotAllocation.Validation.Formats
import SlotAllocation.Validation.Problem
import SlotAllocation.Validation.References
import SlotAllocation.Validation.Schema
import SlotAllocation.Validation.SchemaCheck
import SlotAllocation.Validation.Verdict
import SlotAllocation.Word
import SlotAllocation.Yaml.Decode
import SlotAllocation.Yaml.Node
import SlotAllocation.Yaml.Scanner
import SlotAllocation.Yaml.Timestamp
import SlotAllocation.Yaml.Token
import SlotAllocation.Yaml.Value
