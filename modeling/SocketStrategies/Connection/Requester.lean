import SocketStrategies.Connection.Connector
import SocketStrategies.Metadata.Routing
import SocketStrategies.Strategies.Builder

/-!
# Requesters

A requester is a connection with the setup it was opened with and the strategies it goes
by. Payloads are encoded and decoded in the data format of the setup, by the first codec
that is able to.
-/

namespace SocketStrategies

/-- Why a requester could not encode or decode something. -/
inductive RequesterError where
  | metadata (cause : MetadataError)
  /-- No encoder writes values of the type in the format. -/
  | noEncoder (type : PayloadType) (format : MediaType)
  /-- No decoder makes values of the type from the format. -/
  | noDecoder (type : PayloadType) (format : MediaType)
  | codec (cause : CodecError)
  deriving DecidableEq

def RequesterError.message : RequesterError → String
  | .metadata _ => "metadata error"
  | .noEncoder type format => "no encoder for " ++ type.fullName ++ " as " ++ format.render
  | .noDecoder type format => "no decoder for " ++ type.fullName ++ " as " ++ format.render
  | .codec _ => "codec error"

/-- A connection and what it goes by. -/
structure Requester (κ : Type) where
  connection : κ
  setup : ConnectionSetup
  strategies : Strategies

namespace Requester

variable {κ : Type}

def dataType (r : Requester κ) : MediaType := r.setup.dataType

def metadataType (r : Requester κ) : MediaType := r.setup.metadataType

def frameDecoding (r : Requester κ) : FrameDecoding := r.setup.frameDecoding

def routeMetadata (r : Requester κ) (route : String) (a : Arena) :
    Except RequesterError Bytes × Arena :=
  let (result, a) :=
    a.withFactory r.strategies.bufferFactory (RouteMetadata.encode route r.metadataType)
  (result.mapError .metadata, a)

def extractMetadata (r : Requester κ) (metadata : Bytes) : Except RequesterError MetadataValues :=
  (r.strategies.metadataExtractor.value.extract metadata r.metadataType).mapError .metadata

def encodeData (r : Requester κ) (p : Payload) (a : Arena) : Except RequesterError Bytes × Arena :=
  match findEncoder? (r.strategies.encoders.map (·.value)) p.type (some r.dataType) with
  | none => (.error (.noEncoder p.type r.dataType), a)
  | some e =>
      let (result, a) := a.withFactory r.strategies.bufferFactory (e.encode p (some r.dataType))
      ((result.map Buffer.freeze).mapError .codec, a)

def decodeData (r : Requester κ) (target : PayloadType) (data : Bytes) :
    Except RequesterError target.Carrier :=
  match findDecoder? (r.strategies.decoders.map (·.value)) target (some r.dataType) with
  | none => .error (.noDecoder target r.dataType)
  | some d => (d.decodeTo target data (some r.dataType)).mapError .codec

def inspect (r : Requester κ) (a : Arena) : String :=
  Inspect.record "Requester"
    [("setup", r.setup.inspect), ("strategies", r.strategies.inspect a)]

end Requester

end SocketStrategies
