import WebHost.Address
import WebHost.Client.Loopback
import WebHost.Client.Options
import WebHost.Client.Request
import WebHost.Client.Send
import WebHost.Client.Session
import WebHost.Client.Socket
import WebHost.CommandLine.Arguments
import WebHost.CommandLine.ClientProgram
import WebHost.CommandLine.ServerProgram
import WebHost.Config.Check
import WebHost.Config.Document
import WebHost.Config.Json
import WebHost.Config.Load
import WebHost.Config.Schema
import WebHost.Demo
import WebHost.Digest.Base64
import WebHost.Digest.Sha1
import WebHost.Files.Resource
import WebHost.Files.Tree
import WebHost.Header.Field
import WebHost.Header.Fields
import WebHost.Json.Reader
import WebHost.Json.Value
import WebHost.Json.Writer
import WebHost.Logging
import WebHost.Main
import WebHost.Method
import WebHost.Metrics
import WebHost.Mime
import WebHost.Number.Binary
import WebHost.Number.Decimal
import WebHost.Number.Natural
import WebHost.Percent
import WebHost.Proofs.Address.Host
import WebHost.Proofs.Client.AssumedScheme
import WebHost.Proofs.Client.Delivery
import WebHost.Proofs.Client.Parameters
import WebHost.Proofs.Client.SessionCourse
import WebHost.Proofs.CommandLine.PortOverride
import WebHost.Proofs.Config.Accepted
import WebHost.Proofs.Files.Containment
import WebHost.Proofs.Files.NameSet
import WebHost.Proofs.Files.Paths
import WebHost.Proofs.Files.Resolution
import WebHost.Proofs.Header.Finding
import WebHost.Proofs.Header.Lines
import WebHost.Proofs.Header.Values
import WebHost.Proofs.Json.RoundTrip
import WebHost.Proofs.Json.Tokens
import WebHost.Proofs.Lists
import WebHost.Proofs.Mime.Additions
import WebHost.Proofs.Number.Rounding
import WebHost.Proofs.Protocol.Lines
import WebHost.Proofs.Protocol.Negotiation
import WebHost.Proofs.Protocol.Offers
import WebHost.Proofs.Protocol.Table
import WebHost.Proofs.Response.ContentType
import WebHost.Proofs.Response.Edits
import WebHost.Proofs.Response.Redirects
import WebHost.Proofs.Response.Wire
import WebHost.Proofs.Server.BodyGate
import WebHost.Proofs.Server.CommonHeaders
import WebHost.Proofs.Server.ConfiguredProtocols
import WebHost.Proofs.Server.Counts
import WebHost.Proofs.Server.DefaultProtocol
import WebHost.Proofs.Server.Dispatch
import WebHost.Proofs.Server.EchoServer
import WebHost.Proofs.Server.Handshake
import WebHost.Proofs.Server.Invocations
import WebHost.Proofs.Server.NotFound
import WebHost.Proofs.Server.Paths
import WebHost.Proofs.Server.PollInterval
import WebHost.Proofs.Server.Routes
import WebHost.Proofs.Server.Spelling
import WebHost.Proofs.Server.StandardFields
import WebHost.Proofs.Server.StaticFiles
import WebHost.Proofs.Server.Traffic
import WebHost.Proofs.Service.Registrations
import WebHost.Proofs.Session.Accounts
import WebHost.Proofs.Session.Course
import WebHost.Proofs.Session.Gauge
import WebHost.Proofs.Session.LifeCycle
import WebHost.Proofs.Session.Record
import WebHost.Proofs.Session.Registry
import WebHost.Proofs.Session.RegistryHistory
import WebHost.Proofs.Session.System
import WebHost.Proofs.Shutdown.Channel
import WebHost.Proofs.Shutdown.Interleaving
import WebHost.Proofs.Shutdown.Ledger
import WebHost.Proofs.Shutdown.Numbering
import WebHost.Proofs.Shutdown.Operations
import WebHost.Proofs.Shutdown.ReceiverCount
import WebHost.Proofs.Shutdown.Subscriptions
import WebHost.Proofs.Shutdown.WakeUp
import WebHost.Proofs.Text.Length
import WebHost.Proofs.Text.Order
import WebHost.Proofs.Text.Pieces
import WebHost.Proofs.Text.Utf8
import WebHost.Proofs.Url.Form
import WebHost.Proofs.Url.Parts
import WebHost.Protocol.Name
import WebHost.Protocol.Table
import WebHost.Report.Exchange
import WebHost.Report.Server
import WebHost.Request
import WebHost.RequestId
import WebHost.Response
import WebHost.Script
import WebHost.Server.Answer
import WebHost.Server.Basic
import WebHost.Server.Route
import WebHost.Server.Router
import WebHost.Server.Start
import WebHost.Server.Upgrade
import WebHost.Service
import WebHost.Session.Basic
import WebHost.Session.Loop
import WebHost.Session.Registry
import WebHost.Shutdown.Group
import WebHost.Shutdown.Signal
import WebHost.Shutdown.Tasks
import WebHost.Target
import WebHost.Text.Ascii
import WebHost.Text.Blank
import WebHost.Text.Hex
import WebHost.Text.Quoted
import WebHost.Text.Utf8
import WebHost.Text.Visible
import WebHost.Tls.Der
import WebHost.Tls.Identity
import WebHost.Tls.Pem
import WebHost.Toml.Reader
import WebHost.Toml.Scalar
import WebHost.Toml.Table
import WebHost.Url.Basic
import WebHost.Url.Form
import WebHost.Url.Host
import WebHost.Url.Punycode
import WebHost.Wire
