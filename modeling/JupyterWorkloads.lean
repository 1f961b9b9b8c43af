import JupyterWorkloads.Access
import JupyterWorkloads.Api.Children
import JupyterWorkloads.Api.Client
import JupyterWorkloads.Api.Collection
import JupyterWorkloads.Api.Message
import JupyterWorkloads.Api.Server
import JupyterWorkloads.Api.StatusText
import JupyterWorkloads.Binary64
import JupyterWorkloads.Certificate
import JupyterWorkloads.Child.Basic
import JupyterWorkloads.Child.Kind
import JupyterWorkloads.CommandLine
import JupyterWorkloads.ConfigMap
import JupyterWorkloads.Connection
import JupyterWorkloads.ControlPlane
import JupyterWorkloads.Converge
import JupyterWorkloads.Credentials
import JupyterWorkloads.Defaults
import JupyterWorkloads.Deployment
import JupyterWorkloads.Der
import JupyterWorkloads.Drift
import JupyterWorkloads.Failure
import JupyterWorkloads.Fingerprint
import JupyterWorkloads.Gateway
import JupyterWorkloads.Gateway.Children
import JupyterWorkloads.Group
import JupyterWorkloads.Json.Basic
import JupyterWorkloads.Json.Codec
import JupyterWorkloads.Json.MergePatch
import JupyterWorkloads.Json.Reader
import JupyterWorkloads.Json.Text
import JupyterWorkloads.Kernel
import JupyterWorkloads.Kernel.Children
import JupyterWorkloads.KernelSpec
import JupyterWorkloads.KernelSpec.Children
import JupyterWorkloads.KernelTemplate
import JupyterWorkloads.Kubeconfig
import JupyterWorkloads.Labels
import JupyterWorkloads.Launch.Arguments
import JupyterWorkloads.Launch.Parameters
import JupyterWorkloads.Launch.Pod
import JupyterWorkloads.Launch.Session
import JupyterWorkloads.Log
import JupyterWorkloads.LogFilter
import JupyterWorkloads.Machine
import JupyterWorkloads.Main
import JupyterWorkloads.Metadata
import JupyterWorkloads.Notebook
import JupyterWorkloads.Notebook.Children
import JupyterWorkloads.ObjectRef
import JupyterWorkloads.Parent
import JupyterWorkloads.Pass
import JupyterWorkloads.Pass.Memory
import JupyterWorkloads.Pod.Basic
import JupyterWorkloads.Pod.Completion
import JupyterWorkloads.Program
import JupyterWorkloads.Proofs.Api.Requests
import JupyterWorkloads.Proofs.Child.Stored
import JupyterWorkloads.Proofs.Converge.Abort
import JupyterWorkloads.Proofs.Converge.Accounting
import JupyterWorkloads.Proofs.Converge.Concurrency
import JupyterWorkloads.Proofs.Converge.Controllers
import JupyterWorkloads.Proofs.Converge.Fingerprints
import JupyterWorkloads.Proofs.Converge.Fixpoint
import JupyterWorkloads.Proofs.Converge.Foreign
import JupyterWorkloads.Proofs.Converge.History
import JupyterWorkloads.Proofs.Converge.Overtaken
import JupyterWorkloads.Proofs.Converge.Race
import JupyterWorkloads.Proofs.Converge.Reliable
import JupyterWorkloads.Proofs.Converge.Settlement
import JupyterWorkloads.Proofs.Drift.Containment
import JupyterWorkloads.Proofs.Drift.Edits
import JupyterWorkloads.Proofs.Drift.Paths
import JupyterWorkloads.Proofs.Json.Lawful
import JupyterWorkloads.Proofs.Json.Merging
import JupyterWorkloads.Proofs.Json.Path
import JupyterWorkloads.Proofs.Json.Reading
import JupyterWorkloads.Proofs.Json.RoundTrip
import JupyterWorkloads.Proofs.Kernel.Identity
import JupyterWorkloads.Proofs.Kernel.Template
import JupyterWorkloads.Proofs.KernelSpec.Document
import JupyterWorkloads.Proofs.Launch.Environment
import JupyterWorkloads.Proofs.Notebook.Flags
import JupyterWorkloads.Proofs.Parent.Allowlist
import JupyterWorkloads.Proofs.Parent.Generation
import JupyterWorkloads.Proofs.Parent.Isolation
import JupyterWorkloads.Proofs.Parent.Naming
import JupyterWorkloads.Proofs.Parent.Volumes
import JupyterWorkloads.Proofs.Parent.Wiring
import JupyterWorkloads.Proofs.Pass.Patch
import JupyterWorkloads.Proofs.Pass.Run
import JupyterWorkloads.Proofs.Pass.Stages
import JupyterWorkloads.Proofs.Pass.Status
import JupyterWorkloads.Proofs.Pod.Completion
import JupyterWorkloads.Proofs.Pod.Defaults
import JupyterWorkloads.Proofs.Program.Exchanges
import JupyterWorkloads.Proofs.Reconcile.Containment
import JupyterWorkloads.Proofs.Store.Clients
import JupyterWorkloads.Proofs.Store.Frame
import JupyterWorkloads.Proofs.Store.Versions
import JupyterWorkloads.Proofs.Watch.Coverage
import JupyterWorkloads.Reconcile
import JupyterWorkloads.Reference
import JupyterWorkloads.Reference.Catalog
import JupyterWorkloads.Revisit
import JupyterWorkloads.Schedule
import JupyterWorkloads.Service
import JupyterWorkloads.Settings
import JupyterWorkloads.SipHash
import JupyterWorkloads.Status
import JupyterWorkloads.Store.Interface
import JupyterWorkloads.Store.Memory
import JupyterWorkloads.Table
import JupyterWorkloads.Tasks
import JupyterWorkloads.Text.Alphanumeric
import JupyterWorkloads.Text.Armor
import JupyterWorkloads.Text.Base64
import JupyterWorkloads.Text.Blank
import JupyterWorkloads.Text.Decimal
import JupyterWorkloads.Text.Hidden
import JupyterWorkloads.Text.HostName
import JupyterWorkloads.Text.Instant
import JupyterWorkloads.Text.Pattern
import JupyterWorkloads.Text.Pieces
import JupyterWorkloads.Text.Quoted
import JupyterWorkloads.Text.Scientific
import JupyterWorkloads.Text.Uri
import JupyterWorkloads.Watch
import JupyterWorkloads.WorkloadStatus
import JupyterWorkloads.Yaml
import JupyterWorkloads.Yaml.Block
import JupyterWorkloads.Yaml.Directive
import JupyterWorkloads.Yaml.Document
import JupyterWorkloads.Yaml.Layout
import JupyterWorkloads.Yaml.Node
import JupyterWorkloads.Yaml.Number
import JupyterWorkloads.Yaml.Plain
import JupyterWorkloads.Yaml.Property
import JupyterWorkloads.Yaml.Quoted
import JupyterWorkloads.Yaml.Record
import JupyterWorkloads.Yaml.Spot
import JupyterWorkloads.Yaml.Token
import JupyterWorkloads.Yaml.Value
