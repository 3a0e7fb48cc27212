import Sandboxes.Text.Case
import Sandboxes.Text.Blank
import Sandboxes.Text.Pieces
import Sandboxes.Json.Source
import Sandboxes.Json.Record
import Sandboxes.Json.Printer
import Sandboxes.Net.Url
import Sandboxes.Net.Status
import Sandboxes.Duration
import Sandboxes.Recent
import Sandboxes.Toml.Reader
import Sandboxes.Browser
import Sandboxes.Command.Arguments
import Sandboxes.Command.Basic
import Sandboxes.Command.Grammar
import Sandboxes.Command.Help
import Sandboxes.Command.Run
import Sandboxes.Http.Message
import Sandboxes.Http.Reception
import Sandboxes.Main
import Sandboxes.Proofs.Program.Confinement
import Sandboxes.Proofs.Docker.Runs
import Sandboxes.Proofs.Control.Runs
import Sandboxes.Proofs.Handle.Action
import Sandboxes.Proofs.Handle.Replay
import Sandboxes.Proofs.Docker.Cleanup
import Sandboxes.Proofs.Handle.Ending
import Sandboxes.Proofs.Memory
import Sandboxes.Proofs.Profile
import Sandboxes.Proofs.Service.Cleanup
import Sandboxes.Proofs.Program.Interleaving
import Sandboxes.Proofs.Handle.Lifecycle
import Sandboxes.Proofs.Provisioner
import Sandboxes.Proofs.Recent
import Sandboxes.Proofs.Provider.Instances
import Sandboxes.Proofs.Provider.Memoization
import Sandboxes.Proofs.Text.Digits
import Sandboxes.Proofs.Handle.Ownership
import Sandboxes.Proofs.Web.Responses
import Sandboxes.Proofs.Web.Envelope
import Sandboxes.Proofs.Web.Containers
import Sandboxes.Proofs.Json.Record
import Sandboxes.Proofs.Settings.Document
import Sandboxes.Proofs.Resolver
import Sandboxes.Proofs.Handle.Answers
import Sandboxes.Proofs.Net.Base
import Sandboxes.Proofs.Control.Server
import Sandboxes.Proofs.Handle.Extension
import Sandboxes.Proofs.Provider.Overlap
import Sandboxes.Proofs.Resolver.Overlap
import Sandboxes.Proofs.Docker.Launch
import Sandboxes.Proofs.Service.Strictness
import Sandboxes.Proofs.Net.Ipv4
import Sandboxes.Proofs.Service.Address
import Sandboxes.Proofs.Json.Settle
import Sandboxes.Proofs.Control.Polling
import Sandboxes.Proofs.Settings.Override
import Sandboxes.Proofs.Container.Creation
import Sandboxes.Proofs.Text.Order
import Sandboxes.Proofs.Container.Image
import Sandboxes.Proofs.Container.Address
import Sandboxes.Proofs.Control.Envelope
import Sandboxes.Proofs.Terminal.Report
import Sandboxes.Proofs.Command.Exec
import Sandboxes.Proofs.Text.Clip
import Sandboxes.Proofs.Control.Refusal
import Sandboxes.Proofs.Duration
import Sandboxes.Proofs.Control.Waiting
import Sandboxes.Proofs.Text.Case
import Sandboxes.Proofs.Variant
import Sandboxes.Proofs.Command.Reading
import Sandboxes.Proofs.Command.Choice
import Sandboxes.Proofs.Net.Form
import Sandboxes.Proofs.Json.Quote
import Sandboxes.Proofs.Tags
