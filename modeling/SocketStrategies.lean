import SocketStrategies.Adapter
import SocketStrategies.Address.ConnectAddress
import SocketStrategies.Address.Domain.Ascii
import SocketStrategies.Address.Domain.Direction
import SocketStrategies.Address.Domain.Joiner
import SocketStrategies.Address.Domain.Mapping
import SocketStrategies.Address.Ipv4
import SocketStrategies.Address.Ipv6
import SocketStrategies.Address.Locator
import SocketStrategies.Address.Punycode
import SocketStrategies.Address.Resolution
import SocketStrategies.Arena
import SocketStrategies.Binary.Format
import SocketStrategies.Buffer.Factory
import SocketStrategies.Buffer.Session
import SocketStrategies.Buffer.Workspace
import SocketStrategies.Bytes
import SocketStrategies.Codec.Basic
import SocketStrategies.Codec.DataFormat
import SocketStrategies.Connection.Connector
import SocketStrategies.Connection.Plan
import SocketStrategies.Connection.Requester
import SocketStrategies.Decimal.Digits
import SocketStrategies.Decimal.Shortest
import SocketStrategies.Dict
import SocketStrategies.Json.Document
import SocketStrategies.Json.Numeral
import SocketStrategies.Json.Reader
import SocketStrategies.Json.Tree
import SocketStrategies.MediaType.Basic
import SocketStrategies.MediaType.Parser
import SocketStrategies.Metadata.Composite
import SocketStrategies.Metadata.Error
import SocketStrategies.Metadata.Extractor
import SocketStrategies.Metadata.Routing
import SocketStrategies.Payload.Record
import SocketStrategies.Payload.Schema
import SocketStrategies.Payload.Type
import SocketStrategies.Proofs.Address.Ipv4
import SocketStrategies.Proofs.Address.Ipv6
import SocketStrategies.Proofs.Address.Literal
import SocketStrategies.Proofs.Address.Locator
import SocketStrategies.Proofs.Address.RoundTrip
import SocketStrategies.Proofs.Address.Spelling
import SocketStrategies.Proofs.Binary.Format
import SocketStrategies.Proofs.Binary.Prefix
import SocketStrategies.Proofs.Buffer.Emission
import SocketStrategies.Proofs.Buffer.PlainPool
import SocketStrategies.Proofs.Buffer.Pool
import SocketStrategies.Proofs.Buffer.Reachable
import SocketStrategies.Proofs.Bytes
import SocketStrategies.Proofs.Codec.Answers
import SocketStrategies.Proofs.Codec.JsonTrip
import SocketStrategies.Proofs.Codec.Pairing
import SocketStrategies.Proofs.Codec.PrefixFree
import SocketStrategies.Proofs.Codec.Structured
import SocketStrategies.Proofs.Connection.Answers
import SocketStrategies.Proofs.Connection.DataTrip
import SocketStrategies.Proofs.Connection.DefaultFormat
import SocketStrategies.Proofs.Connection.IdleConfigurers
import SocketStrategies.Proofs.Connection.Plan
import SocketStrategies.Proofs.Connection.RouteTrip
import SocketStrategies.Proofs.DataFormat
import SocketStrategies.Proofs.Dict
import SocketStrategies.Proofs.Encoding
import SocketStrategies.Proofs.Items
import SocketStrategies.Proofs.Json.Document
import SocketStrategies.Proofs.Json.Numeral
import SocketStrategies.Proofs.Json.Surroundings
import SocketStrategies.Proofs.Json.Text
import SocketStrategies.Proofs.Json.Tree
import SocketStrategies.Proofs.Json.Utf8
import SocketStrategies.Proofs.MediaType.Bindings
import SocketStrategies.Proofs.MediaType.Coherence
import SocketStrategies.Proofs.MediaType.Equality
import SocketStrategies.Proofs.MediaType.Fingerprint
import SocketStrategies.Proofs.MediaType.Inclusion
import SocketStrategies.Proofs.MediaType.Length
import SocketStrategies.Proofs.MediaType.Reading
import SocketStrategies.Proofs.MediaType.RoundTrip
import SocketStrategies.Proofs.MediaType.Spelling
import SocketStrategies.Proofs.Metadata.Composite
import SocketStrategies.Proofs.Metadata.Cursor
import SocketStrategies.Proofs.Metadata.Extraction
import SocketStrategies.Proofs.Metadata.Grammar
import SocketStrategies.Proofs.Metadata.Rewriting
import SocketStrategies.Proofs.Metadata.Route
import SocketStrategies.Proofs.Metadata.Routing
import SocketStrategies.Proofs.Metadata.TagTrip
import SocketStrategies.Proofs.Metadata.Truncation
import SocketStrategies.Proofs.Payload.Record
import SocketStrategies.Proofs.Payload.Schema
import SocketStrategies.Proofs.Route.Combining
import SocketStrategies.Proofs.Route.Glob
import SocketStrategies.Proofs.Route.GlobSearch
import SocketStrategies.Proofs.Route.Literal
import SocketStrategies.Proofs.Route.Matching
import SocketStrategies.Proofs.Route.Segments
import SocketStrategies.Proofs.Strategies.Actions
import SocketStrategies.Proofs.Strategies.Rebuilding
import SocketStrategies.Proofs.Text.Caseless
import SocketStrategies.Proofs.Text.Splitting
import SocketStrategies.Proofs.Transport.Framing
import SocketStrategies.Proofs.Transport.Limit
import SocketStrategies.Proofs.Transport.Tcp
import SocketStrategies.Route.Matcher
import SocketStrategies.Strategies.Builder
import SocketStrategies.Strategies.Step
import SocketStrategies.Text.Basic
import SocketStrategies.Text.Composition
import SocketStrategies.Text.Inspect
import SocketStrategies.Text.Mark
import SocketStrategies.Text.Table
import SocketStrategies.Text.Unprintable
import SocketStrategies.Transport.Framing
import SocketStrategies.Transport.Tcp
