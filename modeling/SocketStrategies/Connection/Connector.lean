import SocketStrategies.Buffer.Factory
import SocketStrategies.MediaType.Basic

/-!
# Settings of a connection

A connector holds the settings of the transport while they may still change. `Connector.finish`
turns it into the setup that a transport gets, in which everything is settled.

Frames carry their length in three bytes, so no limit on them is larger than what three bytes can
say.
-/

namespace SocketStrategies

/-!
## Failures of code that others supply

Configurers and resolvers are supplied from outside and may fail in ways of their own. Such a
failure either has only a wording or is one of the library's errors, passed on as the cause.
-/

/-- Why code that was supplied from outside failed. -/
inductive Failure (ε : Type) where
  /-- A failure that only has a wording. -/
  | reported (message : String)
  /-- A failure with a cause of its own kind. -/
  | cause (e : ε)
  deriving DecidableEq

/-!
## How received frames become payloads

Pooled memory may be shared with the buffer that a frame arrived in, so payloads need no copy
there; heap memory may not.
-/

inductive FrameDecoding where
  /-- The payload keeps the memory that the frame arrived in. -/
  | zeroCopy
  /-- The payload gets memory of its own. -/
  | copying
  deriving DecidableEq, Repr

namespace FrameDecoding

/-- The decoding that suits a factory's memory. -/
def select : Allocator → FrameDecoding
  | .pooled => .zeroCopy
  | .heap => .copying

/-- The payload of a frame. In either case it holds the frame's bytes. -/
def decode : FrameDecoding → Storage → Storage
  | .zeroCopy, frame => frame
  | .copying, frame => Storage.empty.write frame.bytes

def name : FrameDecoding → String
  | .zeroCopy => "ZeroCopy"
  | .copying => "Copying"

end FrameDecoding

/-! ## Settings -/

/-- The settings of a transport. Times are in milliseconds. -/
structure Connector where
  /-- The time between two signs of life. -/
  keepaliveInterval : Nat
  /-- How long the other side may be silent. -/
  keepaliveMaxLifetime : Nat
  /-- The size from which outgoing frames are cut up, if they are. -/
  mtu : Option Nat
  /-- The size of the largest frame that is received. -/
  maxInboundPayloadSize : Nat
  deriving DecidableEq, Repr

namespace Connector

/-- The largest length that three bytes can say. -/
def maxFrameLength : Nat := 0xFFFFFF

def default : Connector := ⟨20000, 90000, none, maxFrameLength⟩

def keepalive (c : Connector) (interval maxLifetime : Nat) : Connector :=
  { c with keepaliveInterval := interval, keepaliveMaxLifetime := maxLifetime }

/-- Sets the size from which frames are cut up; none leaves them whole. -/
def setMtu (c : Connector) (mtu : Option Nat) : Connector := { c with mtu := mtu }

/-- Sets the limit on received frames, at most the largest length there is. -/
def limitInbound (c : Connector) (size : Nat) : Connector :=
  { c with maxInboundPayloadSize := min size maxFrameLength }

end Connector

/-- What a connection sends first. -/
structure SetupPayload where
  data : Option Bytes
  metadata : Option Bytes
  deriving DecidableEq, Repr

/-- Everything that a transport needs to open a connection. -/
structure ConnectionSetup where
  dataType : MediaType
  metadataType : MediaType
  /-- How received frames become payloads. -/
  frameDecoding : FrameDecoding
  connector : Connector
  payload : SetupPayload
  deriving DecidableEq

/-- Settles the settings together with what else a setup holds. -/
def Connector.finish (c : Connector) (dataType metadataType : MediaType) (decoding : FrameDecoding)
    (payload : SetupPayload) : ConnectionSetup := ⟨dataType, metadataType, decoding, c, payload⟩

def SetupPayload.inspect (p : SetupPayload) : String :=
  Inspect.record "SetupPayload"
    [("data", Inspect.optional (p.data.map Inspect.bytes)),
      ("metadata", Inspect.optional (p.metadata.map Inspect.bytes))]

def ConnectionSetup.inspect (s : ConnectionSetup) : String :=
  Inspect.record "ConnectionSetup"
    [("data_mime_type", s.dataType.inspect),
      ("metadata_mime_type", s.metadataType.inspect),
      ("frame_decoding", s.frameDecoding.name),
      ("keepalive_interval", Inspect.milliseconds s.connector.keepaliveInterval),
      ("keepalive_max_lifetime", Inspect.milliseconds s.connector.keepaliveMaxLifetime),
      ("mtu", Inspect.optional (s.connector.mtu.map toString)),
      ("max_inbound_payload_size", toString s.connector.maxInboundPayloadSize),
      ("setup_payload", s.payload.inspect)]

/-! ## Step by step -/

namespace Connector

inductive Step where
  | keepalive (interval maxLifetime : Nat)
  | mtu (size : Option Nat)
  | limitInbound (size : Nat)
  | fail (message : String)
  deriving DecidableEq, Repr

/-- Makes a change, or says why it fails. -/
def Step.run (c : Connector) : Step → Except String Connector
  | .keepalive interval maxLifetime => .ok (c.keepalive interval maxLifetime)
  | .mtu size => .ok (c.setMtu size)
  | .limitInbound size => .ok (c.limitInbound size)
  | .fail message => .error message

/-- Makes changes one after the other up to the first that fails. -/
def Step.runAll (c : Connector) (steps : List Step) : Except String Connector :=
  steps.foldlM Step.run c

end Connector

end SocketStrategies
