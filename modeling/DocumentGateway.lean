import DocumentGateway.Access.Admission
import DocumentGateway.Access.Credentials
import DocumentGateway.Access.Identity
import DocumentGateway.Access.Permission
import DocumentGateway.Document.Content
import DocumentGateway.Document.Identifier
import DocumentGateway.Document.ReservedKey
import DocumentGateway.Document.Transform
import DocumentGateway.Flow.Address
import DocumentGateway.Flow.Admission
import DocumentGateway.Flow.Chain
import DocumentGateway.Flow.Context
import DocumentGateway.Flow.Hal
import DocumentGateway.Flow.Intake
import DocumentGateway.Flow.Lookup
import DocumentGateway.Flow.Present
import DocumentGateway.Flow.Program
import DocumentGateway.Flow.Write
import DocumentGateway.Gateway.Crowd
import DocumentGateway.Gateway.Router
import DocumentGateway.Gateway.Serving
import DocumentGateway.Gateway.Session
import DocumentGateway.Gateway.Shutdown
import DocumentGateway.Gateway.State
import DocumentGateway.Gateway.Token
import DocumentGateway.Http.Body
import DocumentGateway.Http.Exchange
import DocumentGateway.Http.Form
import DocumentGateway.Http.Header
import DocumentGateway.Http.Method
import DocumentGateway.Http.MimeType
import DocumentGateway.Http.Multipart
import DocumentGateway.Http.Status
import DocumentGateway.Http.Uri
import DocumentGateway.Http.Wire
import DocumentGateway.Json.Basic
import DocumentGateway.Json.Literal
import DocumentGateway.Json.Parser
import DocumentGateway.Json.Printer
import DocumentGateway.Keyed
import DocumentGateway.Main
import DocumentGateway.Main.MediaType
import DocumentGateway.Net.SocketAddress
import DocumentGateway.Number.Binary64
import DocumentGateway.Number.Shortest
import DocumentGateway.Proofs.Access.Coverage
import DocumentGateway.Proofs.Flow.Address
import DocumentGateway.Proofs.Flow.Intake
import DocumentGateway.Proofs.Flow.Protocol
import DocumentGateway.Proofs.Flow.Write
import DocumentGateway.Proofs.Gateway.AllOrNothing
import DocumentGateway.Proofs.Gateway.Coherence
import DocumentGateway.Proofs.Gateway.Conduct
import DocumentGateway.Proofs.Gateway.History
import DocumentGateway.Proofs.Gateway.LostUpdate
import DocumentGateway.Proofs.Gateway.Precondition
import DocumentGateway.Proofs.Gateway.Refusal
import DocumentGateway.Proofs.Gateway.State
import DocumentGateway.Proofs.Gateway.Transparency
import DocumentGateway.Proofs.Http.Exchange
import DocumentGateway.Proofs.Http.Header
import DocumentGateway.Proofs.Json.Exact
import DocumentGateway.Proofs.Json.Legible
import DocumentGateway.Proofs.Json.Numeral
import DocumentGateway.Proofs.Json.ReadBack
import DocumentGateway.Proofs.Number.Rounding
import DocumentGateway.Proofs.Number.Shortest
import DocumentGateway.Proofs.Store.Cache
import DocumentGateway.Proofs.Store.Database
import DocumentGateway.Proofs.Store.Stamped
import DocumentGateway.Proofs.Text.Cut
import DocumentGateway.Settings.Basic
import DocumentGateway.Settings.Fault
import DocumentGateway.Settings.Load
import DocumentGateway.Settings.Outline
import DocumentGateway.Settings.Reading
import DocumentGateway.Settings.TomlOutline
import DocumentGateway.Store.Cache
import DocumentGateway.Store.Database
import DocumentGateway.Text.Base64
import DocumentGateway.Text.Bytes
import DocumentGateway.Text.Charset.Big5
import DocumentGateway.Text.Charset.Decoder
import DocumentGateway.Text.Charset.Gb18030
import DocumentGateway.Text.Charset.Japanese
import DocumentGateway.Text.Charset.Jis
import DocumentGateway.Text.Charset.Korean
import DocumentGateway.Text.Charset.Label
import DocumentGateway.Text.Charset.SingleByte
import DocumentGateway.Text.Charset.Table
import DocumentGateway.Text.Charset.Utf16
import DocumentGateway.Text.Cut
import DocumentGateway.Text.Marked
import DocumentGateway.Text.Percent
import DocumentGateway.Text.Reader
import DocumentGateway.Text.Upper
import DocumentGateway.Text.Utf8
import DocumentGateway.Toml.Document
import DocumentGateway.Toml.Node
import DocumentGateway.Toml.Scalar
import DocumentGateway.Upload.BodyError
import DocumentGateway.Upload.Properties
import DocumentGateway.Proofs.Access.Grant
import DocumentGateway.Proofs.Gateway.Entries
import DocumentGateway.Proofs.Document.Identifier
import DocumentGateway.Proofs.Flow.JsonIntake
import DocumentGateway.Proofs.Http.Form
import DocumentGateway.Proofs.Flow.Hal
import DocumentGateway.Proofs.Flow.Head
import DocumentGateway.Proofs.Flow.Quiet
import DocumentGateway.Proofs.Flow.Record
import DocumentGateway.Proofs.Flow.Outcome
import DocumentGateway.Proofs.Gateway.Shutdown
import DocumentGateway.Proofs.Gateway.Silence
import DocumentGateway.Proofs.Gateway.Ending
import DocumentGateway.Proofs.Gateway.Telling
import DocumentGateway.Proofs.Gateway.CurrentTag
import DocumentGateway.Proofs.Gateway.Recency
import DocumentGateway.Proofs.Store.Recall
import DocumentGateway.Proofs.Gateway.Legible
import DocumentGateway.Proofs.Gateway.Locality
import DocumentGateway.Proofs.Gateway.Lookup
import DocumentGateway.Proofs.Gateway.BodyLimit
import DocumentGateway.Proofs.Text.Utf8
import DocumentGateway.Proofs.Text.Base64
import DocumentGateway.Proofs.Access.Login
import DocumentGateway.Proofs.Store.CompareAndSet
import DocumentGateway.Proofs.Upload.Gathering
import DocumentGateway.Proofs.Flow.Upload
import DocumentGateway.Proofs.Text.Order
import DocumentGateway.Proofs.Gateway.Warnings
import DocumentGateway.Proofs.Flow.MediaType
import DocumentGateway.Proofs.Text.Percent
import DocumentGateway.Proofs.Http.Uri
import DocumentGateway.Proofs.Flow.Resolution
import DocumentGateway.Proofs.Flow.Link
import DocumentGateway.Proofs.Gateway.SelfLink
import DocumentGateway.Proofs.Flow.Description
import DocumentGateway.Proofs.Flow.RefusedBody
import DocumentGateway.Proofs.Access.Authorization
import DocumentGateway.Proofs.Settings.Violation
import DocumentGateway.Proofs.Document.Transform
import DocumentGateway.Proofs.Flow.FinalResponse
