import SchemaMigration.Baseline.Resolve
import SchemaMigration.Baseline.Stage
import SchemaMigration.Client.Database
import SchemaMigration.Client.Invocation
import SchemaMigration.Client.Location
import SchemaMigration.CommandLine.Arguments
import SchemaMigration.CommandLine.Commands
import SchemaMigration.CommandLine.Diagnostics
import SchemaMigration.CommandLine.Host
import SchemaMigration.CommandLine.Project
import SchemaMigration.CommandLine.Reading
import SchemaMigration.CommandLine.Report
import SchemaMigration.CommandLine.Usage
import SchemaMigration.Database.Connection
import SchemaMigration.Database.Error
import SchemaMigration.Database.Kind
import SchemaMigration.Database.Policy
import SchemaMigration.Database.Request
import SchemaMigration.Digest.Sha256
import SchemaMigration.Download
import SchemaMigration.Embedded.Database
import SchemaMigration.Embedded.Engine
import SchemaMigration.Files.Change
import SchemaMigration.Files.Error
import SchemaMigration.Files.Path
import SchemaMigration.Files.Tree
import SchemaMigration.Fleet
import SchemaMigration.Http.Fetch
import SchemaMigration.Http.Response
import SchemaMigration.Http.Url
import SchemaMigration.InputError
import SchemaMigration.Ledger.Operation
import SchemaMigration.Ledger.Record
import SchemaMigration.Ledger.Sql
import SchemaMigration.Log
import SchemaMigration.Log.Filter
import SchemaMigration.Machine
import SchemaMigration.Main
import SchemaMigration.Plan.Basic
import SchemaMigration.Plan.Build
import SchemaMigration.Plan.Options
import SchemaMigration.Preparation
import SchemaMigration.Program
import SchemaMigration.Prompt
import SchemaMigration.Proofs.Baseline.Turns
import SchemaMigration.Proofs.Files.Path
import SchemaMigration.Proofs.Files.Tree
import SchemaMigration.Proofs.Fleet.Gates
import SchemaMigration.Proofs.Ledger.Operations
import SchemaMigration.Proofs.Ledger.Register
import SchemaMigration.Proofs.Ledger.View
import SchemaMigration.Proofs.Plan.Claims
import SchemaMigration.Proofs.Plan.Entries
import SchemaMigration.Proofs.Plan.PathOrder
import SchemaMigration.Proofs.Plan.Enumeration
import SchemaMigration.Proofs.Plan.Additions
import SchemaMigration.Proofs.Plan.Matching
import SchemaMigration.Proofs.Plan.Takeovers
import SchemaMigration.Proofs.Plan.Demotion
import SchemaMigration.Proofs.Plan.Duplicates
import SchemaMigration.Proofs.Plan.Verdicts
import SchemaMigration.Proofs.Preparation.DryRun
import SchemaMigration.Proofs.Preparation.HealthySite
import SchemaMigration.Proofs.Preparation.Steps
import SchemaMigration.Proofs.Program.Layers
import SchemaMigration.Proofs.Program.Trail
import SchemaMigration.Proofs.Rehearsal.Refinement
import SchemaMigration.Proofs.Rehearsal.Registers
import SchemaMigration.Proofs.Rehearsal.Rows
import SchemaMigration.Proofs.Rehearsal.Statements
import SchemaMigration.Proofs.Rehearsal.StrictSite
import SchemaMigration.Proofs.Rehearsal.Tokens
import SchemaMigration.Proofs.Scripts.Scan
import SchemaMigration.Proofs.Scripts.Partition
import SchemaMigration.Proofs.Text.ByteOrder
import SchemaMigration.Proofs.Text.Number
import SchemaMigration.Proofs.Text.Quoted
import SchemaMigration.Proofs.Update.Absence
import SchemaMigration.Proofs.Update.Bench
import SchemaMigration.Proofs.Update.Capacity
import SchemaMigration.Proofs.Update.Completion
import SchemaMigration.Proofs.Update.Course
import SchemaMigration.Proofs.Update.Dues
import SchemaMigration.Proofs.Update.FailFast
import SchemaMigration.Proofs.Update.FixedPoint
import SchemaMigration.Proofs.Update.Forecast
import SchemaMigration.Proofs.Update.History
import SchemaMigration.Proofs.Update.Inventory
import SchemaMigration.Proofs.Update.Outcome
import SchemaMigration.Proofs.Update.Progress
import SchemaMigration.Proofs.Update.Protection
import SchemaMigration.Proofs.Update.Provenance
import SchemaMigration.Proofs.Update.Requests
import SchemaMigration.Proofs.Update.Rerun
import SchemaMigration.Proofs.Update.Resumption
import SchemaMigration.Proofs.Update.Success
import SchemaMigration.Proofs.Update.Surroundings
import SchemaMigration.Rehearsal.Client
import SchemaMigration.Rehearsal.Host
import SchemaMigration.Rehearsal.Machine
import SchemaMigration.Rehearsal.Rules
import SchemaMigration.Rehearsal.Server
import SchemaMigration.Rehearsal.Session
import SchemaMigration.Rehearsal.Store
import SchemaMigration.Rehearsal.Token
import SchemaMigration.Rehearsal.World
import SchemaMigration.Scripts.Basic
import SchemaMigration.Scripts.Scan
import SchemaMigration.Settings.Basic
import SchemaMigration.Settings.Decode
import SchemaMigration.Settings.File
import SchemaMigration.Site
import SchemaMigration.Text.Blank
import SchemaMigration.Text.Column
import SchemaMigration.Text.Escaped
import SchemaMigration.Text.Fields
import SchemaMigration.Text.Invisible
import SchemaMigration.Text.Json
import SchemaMigration.Text.Number
import SchemaMigration.Text.Quoted
import SchemaMigration.Text.Shortest
import SchemaMigration.Text.Utf8
import SchemaMigration.Time.Timestamp
import SchemaMigration.Update.Run
import SchemaMigration.UpdateError
import SchemaMigration.Yaml.Cursor
import SchemaMigration.Yaml.Node
import SchemaMigration.Yaml.Scalar
import SchemaMigration.Yaml.Token
import SchemaMigration.Yaml.Value
import SchemaMigration.Proofs.Baseline.Consent
import SchemaMigration.Proofs.Fleet.Initialised
import SchemaMigration.Proofs.Client.Batch
import SchemaMigration.Proofs.Embedded.Transactions
import SchemaMigration.Proofs.Client.Names
import SchemaMigration.Proofs.Update.Noop
import SchemaMigration.Proofs.Update.Recovery
import SchemaMigration.Proofs.Client.Scripts
import SchemaMigration.Proofs.Text.Fields
import SchemaMigration.Proofs.Text.Blank
import SchemaMigration.Proofs.Database.Connection
import SchemaMigration.Proofs.Client.Passwords
import SchemaMigration.Proofs.Client.Rows
import SchemaMigration.Proofs.Text.Pieces
import SchemaMigration.Proofs.Ledger.Quotation
import SchemaMigration.Proofs.CommandLine.Selection
import SchemaMigration.Proofs.Download.Replacement
