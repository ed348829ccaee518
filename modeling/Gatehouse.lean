import Gatehouse.Buffer.Pool
import Gatehouse.Buffer.Profile
import Gatehouse.Buffer.Reader
import Gatehouse.Buffer.Stream
import Gatehouse.Certificate.Basic
import Gatehouse.Certificate.Name
import Gatehouse.Certificate.Reader
import Gatehouse.Certificate.Validity
import Gatehouse.Config.Listener
import Gatehouse.Config.Security
import Gatehouse.Config.Server
import Gatehouse.Config.Settings
import Gatehouse.Config.SettingsFile
import Gatehouse.Cookie
import Gatehouse.Encoding.Base64
import Gatehouse.Encoding.Canonical
import Gatehouse.Encoding.Der
import Gatehouse.Encoding.Pem
import Gatehouse.Error
import Gatehouse.Form
import Gatehouse.Handler
import Gatehouse.Http.Body
import Gatehouse.Http.Header
import Gatehouse.Http.Message
import Gatehouse.Http.Method
import Gatehouse.Http.Status
import Gatehouse.Http.Target
import Gatehouse.Net.Address
import Gatehouse.Net.Machine
import Gatehouse.Number.Binary64
import Gatehouse.Number.Decimal
import Gatehouse.Routing.Dispatch
import Gatehouse.Routing.PathTable
import Gatehouse.Routing.VirtualHost
import Gatehouse.Server.Interleaving
import Gatehouse.Server.Lifecycle
import Gatehouse.Server.Listeners
import Gatehouse.Server.Service
import Gatehouse.Session.Basic
import Gatehouse.Session.Holder
import Gatehouse.Stage.Cookies
import Gatehouse.Stage.ErrorPages
import Gatehouse.Stage.Forms
import Gatehouse.Stage.Framing
import Gatehouse.Storage
import Gatehouse.Text.Blank
import Gatehouse.Text.Printable
import Gatehouse.Text.Quoted
import Gatehouse.Text.Utf8
import Gatehouse.Time.Calendar
import Gatehouse.Tls.Acceptance
import Gatehouse.Tls.PrivateKey
import Gatehouse.Tls.Setup
import Gatehouse.Worker.Basic
import Gatehouse.Worker.Channel
import Gatehouse.Worker.Gate
import Gatehouse.Worker.Options
import Gatehouse.Worker.Tasks
import Gatehouse.Worker.Traffic
import Gatehouse.Yaml.Cursor
import Gatehouse.Yaml.Decode
import Gatehouse.Yaml.Document
import Gatehouse.Yaml.Event
import Gatehouse.Yaml.Label
import Gatehouse.Yaml.Meaning
import Gatehouse.Yaml.Node
import Gatehouse.Yaml.Problem
import Gatehouse.Yaml.Scalar
import Gatehouse.Yaml.Token
import Gatehouse.Proofs.Checks
import Gatehouse.Proofs.Routing.Covering
import Gatehouse.Proofs.Routing.Filing
import Gatehouse.Proofs.Routing.HostChoice
import Gatehouse.Proofs.Routing.Lookup
import Gatehouse.Proofs.Routing.Registration
import Gatehouse.Proofs.Stage.Passing
import Gatehouse.Proofs.Routing.Dispatch
import Gatehouse.Proofs.Buffer.Attempt
import Gatehouse.Proofs.Buffer.Transparency
import Gatehouse.Proofs.Server.Framing
import Gatehouse.Proofs.Net.Sockets
import Gatehouse.Proofs.Worker.Hysteresis
import Gatehouse.Proofs.Server.Opening
import Gatehouse.Proofs.Server.Closing
import Gatehouse.Proofs.Server.AllOrNothing
import Gatehouse.Proofs.Server.Exclusion
import Gatehouse.Proofs.Server.Transitions
import Gatehouse.Proofs.Server.Contention
import Gatehouse.Proofs.Config.Drafting
import Gatehouse.Proofs.Server.Readiness
import Gatehouse.Proofs.Stage.Answering
import Gatehouse.Proofs.Routing.Delivery
import Gatehouse.Proofs.Routing.Nesting
import Gatehouse.Proofs.Worker.TaskAccounts
import Gatehouse.Proofs.Places
import Gatehouse.Proofs.Worker.Overlap
import Gatehouse.Proofs.Buffer.Conservation
import Gatehouse.Proofs.Text.Ascii
import Gatehouse.Proofs.Http.HostName
import Gatehouse.Proofs.Http.HostForms
import Gatehouse.Proofs.Http.Authority
import Gatehouse.Proofs.Routing.Reachability
import Gatehouse.Proofs.Routing.Addressing
import Gatehouse.Proofs.Stage.CookieDelivery
import Gatehouse.Proofs.Stage.DeclaredLength
import Gatehouse.Proofs.Buffer.Contents
import Gatehouse.Proofs.Buffer.Shelf
import Gatehouse.Proofs.Buffer.Reuse
import Gatehouse.Proofs.Buffer.Isolation
import Gatehouse.Proofs.Worker.Refusals
import Gatehouse.Proofs.Cookie.Jar
import Gatehouse.Proofs.Cookie.Writing
import Gatehouse.Proofs.Cookie.Return
import Gatehouse.Proofs.Stage.FormReading
import Gatehouse.Proofs.FormDecoding
import Gatehouse.Proofs.Encoding.Base64
import Gatehouse.Proofs.Encoding.Bundle
import Gatehouse.Proofs.Session.Agreement
import Gatehouse.Proofs.Encoding.Strictness
import Gatehouse.Proofs.Encoding.Sections
import Gatehouse.Proofs.Encoding.Documents
import Gatehouse.Proofs.Session.Identifier
import Gatehouse.Proofs.Tls.Recognition
import Gatehouse.Proofs.Config.Applying
import Gatehouse.Proofs.Routing.Keys
import Gatehouse.Proofs.Routing.Rounds
