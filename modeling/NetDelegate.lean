import NetDelegate.AddResult
import NetDelegate.Command
import NetDelegate.Config.Basic
import NetDelegate.Config.Conf
import NetDelegate.ContainerId
import NetDelegate.Duration
import NetDelegate.Engine
import NetDelegate.Environment
import NetDelegate.Error
import NetDelegate.ErrorReport
import NetDelegate.FileSystem.Node
import NetDelegate.FileSystem.Path
import NetDelegate.Json.Issue
import NetDelegate.Json.Number
import NetDelegate.Json.Printer
import NetDelegate.Json.Reader
import NetDelegate.Json.Record
import NetDelegate.Json.Skip
import NetDelegate.Json.Token
import NetDelegate.Json.Value
import NetDelegate.Main
import NetDelegate.NameMap
import NetDelegate.NetworkList
import NetDelegate.Number.Binary64
import NetDelegate.Number.Shortest
import NetDelegate.Options
import NetDelegate.Plugin.Context
import NetDelegate.Plugin.Delegator
import NetDelegate.Plugin.Process
import NetDelegate.Plugin.Search
import NetDelegate.Program
import NetDelegate.Scratch
import NetDelegate.Scratch.Disk
import NetDelegate.Store.Basic
import NetDelegate.Store.Consul
import NetDelegate.Store.Etcd
import NetDelegate.Store.Registry
import NetDelegate.Store.Session
import NetDelegate.Store.Status
import NetDelegate.Text.Base64
import NetDelegate.Text.Blank
import NetDelegate.Text.CaseTable
import NetDelegate.Text.CodeMap
import NetDelegate.Text.CodeSet
import NetDelegate.Text.Lowercase
import NetDelegate.Text.Normal
import NetDelegate.Text.NormalTable
import NetDelegate.Text.Percent
import NetDelegate.Text.Quoted
import NetDelegate.Text.Split
import NetDelegate.Text.Utf8
import NetDelegate.Text.Visible
import NetDelegate.Url.Basic
import NetDelegate.Url.Domain
import NetDelegate.Url.Domain.Direction
import NetDelegate.Url.Domain.Joiner
import NetDelegate.Url.Domain.Mapping
import NetDelegate.Url.Domain.MarkTable
import NetDelegate.Url.Domain.Punycode
import NetDelegate.Url.Form
import NetDelegate.Url.Host
import NetDelegate.Url.Parser
import NetDelegate.Url.Path
import NetDelegate.Proofs.FileSystem.Folder
import NetDelegate.Proofs.Scratch.Name
import NetDelegate.Proofs.Scratch.Disk
import NetDelegate.Proofs.Scratch.Folder
import NetDelegate.Proofs.Scratch.Frame
import NetDelegate.Proofs.Scratch.Records
import NetDelegate.Proofs.Scratch.History
import NetDelegate.Proofs.Scratch.Agreement
import NetDelegate.Proofs.Engine.Attach
import NetDelegate.Proofs.Engine.Teardown
import NetDelegate.Proofs.Plugin.Process
import NetDelegate.Proofs.Engine.Detach
import NetDelegate.Proofs.Engine.Separation
import NetDelegate.Proofs.Text.Percent
import NetDelegate.Proofs.Url.Path
import NetDelegate.Proofs.Url.Text
import NetDelegate.Proofs.Config.Load
import NetDelegate.Proofs.Store.Key
import NetDelegate.Proofs.Store.Container
import NetDelegate.Proofs.Config.Failure
import NetDelegate.Proofs.Scratch.Saving
import NetDelegate.Proofs.Store.Failure
import NetDelegate.Proofs.Engine.Failure
import NetDelegate.Proofs.Json.Numeral
import NetDelegate.Proofs.Json.Outline
import NetDelegate.Proofs.Json.Scan
import NetDelegate.Proofs.Json.Reading
import NetDelegate.Proofs.Engine.Result
import NetDelegate.Proofs.Json.Record
import NetDelegate.Proofs.Store.Etcd
import NetDelegate.Proofs.Engine.Agreement
import NetDelegate.Proofs.Json.Typed
import NetDelegate.Proofs.Json.Integer
import NetDelegate.Proofs.Json.Compact
import NetDelegate.Proofs.Json.Acceptance
import NetDelegate.Proofs.Plugin.Report
import NetDelegate.Proofs.Engine.Entries
import NetDelegate.Proofs.Config.Sum
import NetDelegate.Proofs.Config.Timeout
import NetDelegate.Proofs.Engine.Requests
import NetDelegate.Proofs.Text.Utf8
import NetDelegate.Proofs.Config.Expansion
import NetDelegate.Proofs.Config.Options
import NetDelegate.Proofs.Config.Span
import NetDelegate.Proofs.Config.WellFormed
import NetDelegate.Proofs.Plugin.Execution
import NetDelegate.Proofs.Engine.Outcome
import NetDelegate.Proofs.Json.Line
import NetDelegate.Proofs.Json.Member
import NetDelegate.Proofs.Program.Output
import NetDelegate.Proofs.Program.NotFound
import NetDelegate.Proofs.Scratch.Taking
import NetDelegate.Proofs.Scratch.Privacy
import NetDelegate.Proofs.Store.Classification
import NetDelegate.Proofs.FileSystem.Path
import NetDelegate.Proofs.Plugin.SearchPath
import NetDelegate.Proofs.Plugin.Start
import NetDelegate.Proofs.Plugin.Search
import NetDelegate.Proofs.Plugin.Outcome
import NetDelegate.Proofs.Program.Options
import NetDelegate.Proofs.Program.Nesting
import NetDelegate.Proofs.Scratch.Path
import NetDelegate.Proofs.Config.Variables
import NetDelegate.Proofs.Config.Order
import NetDelegate.Proofs.Config.Secrets
import NetDelegate.Proofs.Store.TwoRuns
import NetDelegate.Proofs.Engine.Secrets
import NetDelegate.Proofs.Store.Credentials
import NetDelegate.Proofs.Store.Password
import NetDelegate.Proofs.Url.Form
import NetDelegate.Proofs.Store.Datacenter
import NetDelegate.Proofs.Text.Lowercase
import NetDelegate.Proofs.Store.Registry
import NetDelegate.Proofs.Json.Positional
import NetDelegate.Proofs.Json.TakesValues
import NetDelegate.Proofs.Json.Named
import NetDelegate.Proofs.Json.Fields
import NetDelegate.Proofs.Config.Conf
import NetDelegate.Proofs.Config.Shape
import NetDelegate.Proofs.Config.RoundTrip
import NetDelegate.Proofs.Config.Prefix
import NetDelegate.Proofs.Config.Seconds
