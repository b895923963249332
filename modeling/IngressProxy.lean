import IngressProxy.Backend.Ports
import IngressProxy.Backend.Reference
import IngressProxy.Backend.Url
import IngressProxy.Certificate
import IngressProxy.CharSet
import IngressProxy.Cluster.Index
import IngressProxy.Cluster.Reconcile
import IngressProxy.Cluster.Store
import IngressProxy.CommandLine.Arguments
import IngressProxy.CommandLine.LogFilter
import IngressProxy.Crypto.Curve
import IngressProxy.Crypto.Der
import IngressProxy.Crypto.Edwards
import IngressProxy.Crypto.Modular
import IngressProxy.Crypto.PrivateKey
import IngressProxy.Crypto.Sha512
import IngressProxy.Http.Chunked
import IngressProxy.Http.Framing
import IngressProxy.Http.Head
import IngressProxy.Http.Header
import IngressProxy.Http.Http2
import IngressProxy.Http.Inbound
import IngressProxy.Http.Message
import IngressProxy.Http.Outbound
import IngressProxy.Http.Reply
import IngressProxy.Http.Status
import IngressProxy.Json.Printer
import IngressProxy.Json.Reader
import IngressProxy.Json.Value
import IngressProxy.Main
import IngressProxy.Net.Ip
import IngressProxy.OrderedMap
import IngressProxy.Pattern.Basic
import IngressProxy.Pattern.Expr
import IngressProxy.Pattern.Match
import IngressProxy.Pattern.Parser
import IngressProxy.Pattern.Term
import IngressProxy.Pattern.Weight
import IngressProxy.Pem
import IngressProxy.Program.Admin
import IngressProxy.Program.Basic
import IngressProxy.Program.Cluster
import IngressProxy.Program.Kubeconfig
import IngressProxy.Program.Metrics
import IngressProxy.Program.Supervisor
import IngressProxy.Program.Running
import IngressProxy.Proxy.AcceptLoop
import IngressProxy.Proxy.Connection
import IngressProxy.Proxy.Forward
import IngressProxy.Proxy.Handler
import IngressProxy.Proxy.Lifecycle
import IngressProxy.Proxy.Running
import IngressProxy.Proxy.Server
import IngressProxy.Proxy.Tasks
import IngressProxy.Resource.Decode
import IngressProxy.Resource.Ingress
import IngressProxy.Resource.Metadata
import IngressProxy.Resource.Reference
import IngressProxy.Resource.Secret
import IngressProxy.Resource.Service
import IngressProxy.Routing.Host
import IngressProxy.Routing.Payload
import IngressProxy.Routing.Table
import IngressProxy.Scenario.Network
import IngressProxy.Scenario.Session
import IngressProxy.Signal.Gate
import IngressProxy.Signal.SharedGate
import IngressProxy.Text.Base64
import IngressProxy.Text.Hex
import IngressProxy.Text.Quoted
import IngressProxy.Text.Utf8
import IngressProxy.Tls.Handshake
import IngressProxy.Tls.ServerName
import IngressProxy.Unicode.AgeTable
import IngressProxy.Unicode.BinaryTable
import IngressProxy.Unicode.BreakTable
import IngressProxy.Unicode.CaseTable
import IngressProxy.Unicode.CategoryTable
import IngressProxy.Unicode.Property
import IngressProxy.Unicode.ScriptTable
import IngressProxy.Uri.Authority
import IngressProxy.Uri.Basic
import IngressProxy.Uri.Error
import IngressProxy.Uri.Target
import IngressProxy.Watch.Debounce
import IngressProxy.Watch.Feeds
import IngressProxy.Watch.Indexing
import IngressProxy.Watch.Watcher
import IngressProxy.Proofs.OrderedMap
import IngressProxy.Proofs.Runs
import IngressProxy.Proofs.Backend.Ports
import IngressProxy.Proofs.Routing.Candidates
import IngressProxy.Proofs.Routing.FirstMatch
import IngressProxy.Proofs.Routing.CertificateChoice
import IngressProxy.Proofs.Cluster.Reconcile
import IngressProxy.Proofs.Cluster.PortAgreement
import IngressProxy.Proofs.Watch.Debounce
import IngressProxy.Proofs.Watch.Bursts
import IngressProxy.Proofs.Watch.NoLostUpdate
import IngressProxy.Proofs.Watch.Transition
import IngressProxy.Proofs.Text.Readable
import IngressProxy.Proofs.Text.Utf8
import IngressProxy.Proofs.Resource.Reference
import IngressProxy.Proofs.Cluster.Index
import IngressProxy.Proofs.Cluster.LastWrite
import IngressProxy.Proofs.Cluster.Store
import IngressProxy.Proofs.Routing.Lookups
import IngressProxy.Proofs.Cluster.OrderIndependence
import IngressProxy.Proofs.Routing.Declarers
import IngressProxy.Proofs.Cluster.Isolation
import IngressProxy.Proofs.Proxy.Tasks
import IngressProxy.Proofs.Proxy.Lifecycle
import IngressProxy.Proofs.Proxy.Running
import IngressProxy.Proofs.Proxy.Answers
import IngressProxy.Proofs.Proxy.Publication
import IngressProxy.Proofs.Signal.SharedGate
import IngressProxy.Proofs.Uri.WellFormed
import IngressProxy.Proofs.Http.Headers
import IngressProxy.Proofs.Http.ConnectionOptions
import IngressProxy.Proofs.Proxy.Forward
import IngressProxy.Proofs.Proxy.HopByHop
import IngressProxy.Proofs.Proxy.AcceptLoop
import IngressProxy.Proofs.Proxy.SilentClient
import IngressProxy.Proofs.Proxy.Endings
import IngressProxy.Proofs.Proxy.EarlyShutdown
import IngressProxy.Proofs.Program.FailedStart
import IngressProxy.Proofs.Cluster.Exactness
import IngressProxy.Proofs.Proxy.RoutedHost
import IngressProxy.Proofs.Proxy.Accounting
import IngressProxy.Proofs.Proxy.AcceptOrder
import IngressProxy.Proofs.Uri.Host
import IngressProxy.Proofs.Routing.HostKey
import IngressProxy.Proofs.Backend.Address
import IngressProxy.Proofs.Routing.Bookkeeping
import IngressProxy.Proofs.Cluster.Addresses
import IngressProxy.Proofs.Routing.Wildcards
import IngressProxy.Proofs.Proxy.AddressChain
