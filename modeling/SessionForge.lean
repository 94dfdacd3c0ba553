import SessionForge.Agent.Outage
import SessionForge.Agent.Traffic
import SessionForge.Command.Run
import SessionForge.Files.Folder
import SessionForge.Main
import SessionForge.Sample
import SessionForge.Session.Edit
import SessionForge.Proofs.Template.Outcome
import SessionForge.Proofs.Agent.Register
import SessionForge.Proofs.Agent.Cloning
import SessionForge.Proofs.Agent.History
import SessionForge.Proofs.Agent.Steps
import SessionForge.Proofs.Agent.Preserved
import SessionForge.Proofs.Agent.Linearized
import SessionForge.Proofs.Json.Numbers
import SessionForge.Proofs.Json.Scanning
import SessionForge.Proofs.Json.Values
import SessionForge.Proofs.Json.Records
import SessionForge.Proofs.Json.Grammar
import SessionForge.Proofs.Json.Tokens
import SessionForge.Proofs.Json.Documents
import SessionForge.Proofs.Instant.RoundTrip
import SessionForge.Proofs.Session.Records
import SessionForge.Proofs.Session.RoundTrip
import SessionForge.Proofs.Json.Meaning
import SessionForge.Proofs.Dictionary
import SessionForge.Proofs.Json.Fields
import SessionForge.Proofs.Json.Members
import SessionForge.Proofs.Template.Reading
import SessionForge.Proofs.Session.Fields
import SessionForge.Proofs.Session.Reading
import SessionForge.Proofs.Session.Editing
import SessionForge.Proofs.Agent.Calls
import SessionForge.Proofs.Agent.Snapshot
import SessionForge.Proofs.Agent.Alone
import SessionForge.Proofs.Agent.Clones
import SessionForge.Proofs.Template.Keyword
import SessionForge.Proofs.Template.Records
import SessionForge.Proofs.Template.Fields
import SessionForge.Proofs.Template.RoundTrip
import SessionForge.Proofs.Template.Moments
import SessionForge.Orchestrator.Call
import SessionForge.Proofs.Agent.Recorded
import SessionForge.Proofs.Orchestrator.Tokens
import SessionForge.Proofs.Session.Hygiene
import SessionForge.Proofs.Json.Writing
import SessionForge.Proofs.Written
import SessionForge.Agent.Visit
import SessionForge.Proofs.Agent.Visit
import SessionForge.Proofs.Binary64.Rounding
import SessionForge.Proofs.Binary64.Shortest
import SessionForge.Proofs.Json.Numerals
import SessionForge.Proofs.Json.Torn
import SessionForge.Proofs.Json.Printed
import SessionForge.Proofs.Json.Noticing
import SessionForge.Proofs.Json.TornRecords
import SessionForge.Proofs.Session.Torn
import SessionForge.Proofs.Template.Torn
import SessionForge.Proofs.TornDocuments
import SessionForge.Proofs.Template.Winner
import SessionForge.Proofs.Config.Checks
import SessionForge.Proofs.Command.Running
import SessionForge.Proofs.Command.Printing
import SessionForge.Proofs.Command.Listing
import SessionForge.Proofs.Json.Indented
import SessionForge.Proofs.Json.PrintedRecords
import SessionForge.Proofs.Session.Sorted
import SessionForge.Proofs.Command.Cloning
import SessionForge.Proofs.Toml.Overlay
import SessionForge.Proofs.Toml.Tables
import SessionForge.Proofs.Toml.Acceptance
import SessionForge.Proofs.Toml.Grammar
import SessionForge.Proofs.Toml.Values
import SessionForge.Proofs.Toml.Lines
import SessionForge.Proofs.Config.Settings
import SessionForge.Proofs.Config.Reading
import SessionForge.Proofs.Text.Runs
import SessionForge.Proofs.Text.Lowercase
import SessionForge.Proofs.Template.Terms
import SessionForge.Proofs.Template.Query
import SessionForge.Proofs.Template.Score
import SessionForge.Proofs.Files.Path
import SessionForge.Proofs.Template.FolderStore
