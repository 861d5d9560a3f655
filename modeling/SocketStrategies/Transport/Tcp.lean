import SocketStrategies.Address.Resolution
import SocketStrategies.Connection.Connector
import SocketStrategies.Transport.Framing

/-!
# Connections over TCP

A TCP transport resolves its address and connects to it. A connection sends and receives frames;
the setup's limit applies to both, and its frame decoding to what is received.

What the other side sends is given as the chunks that arrive before its end of the stream, and
what it gets is recorded.
-/

namespace SocketStrategies

/-- Why a network makes no connection. -/
inductive NetworkFault where
  | connectionRefused
  | connectionReset
  | hostUnreachable
  | networkUnreachable
  | networkDown
  | addrNotAvailable
  | timedOut
  deriving DecidableEq, Repr

def NetworkFault.name : NetworkFault → String
  | .connectionRefused => "ConnectionRefused"
  | .connectionReset => "ConnectionReset"
  | .hostUnreachable => "HostUnreachable"
  | .networkUnreachable => "NetworkUnreachable"
  | .networkDown => "NetworkDown"
  | .addrNotAvailable => "AddrNotAvailable"
  | .timedOut => "TimedOut"

inductive IoFault where
  | network (fault : NetworkFault)
  | frame (fault : FrameFault)
  deriving DecidableEq, Repr

def IoFault.name : IoFault → String
  | .network fault => fault.name
  | .frame .outgoingTooLong => "InvalidInput"
  | .frame .incomingTooLong => "InvalidData"
  | .frame .unfinished => "Other"

/-- Why something failed on a TCP connection. -/
inductive TcpError where
  /-- The address was not resolved. -/
  | resolver (cause : Failure ResolutionError)
  | connect (address : SocketAddress) (cause : IoFault)
  | readWrite (cause : IoFault)
  deriving DecidableEq

def TcpError.message : TcpError → String
  | .resolver _ => "dns resolver error"
  | .connect address _ => "tcp connect to " ++ address.render ++ " error"
  | .readWrite _ => "tcp connection read write error"

/-- A connection over TCP. -/
structure TcpConnection where
  peer : SocketAddress
  /-- How received frames become payloads. -/
  frameDecoding : FrameDecoding
  /-- The length of the longest frame. -/
  limit : Nat
  /-- How far the incoming stream has been read. -/
  reader : Framing.Reader
  /-- The chunks that have not arrived yet. -/
  incoming : List Bytes
  /-- Whether a fault has ended the incoming stream. -/
  failed : Bool
  sent : Bytes
  deriving DecidableEq

namespace TcpConnection

def start (setup : ConnectionSetup) (peer : SocketAddress) (incoming : List Bytes) :
    TcpConnection :=
  ⟨peer, setup.frameDecoding, setup.connector.maxInboundPayloadSize, .start, incoming, false, []⟩

/-- Sends a frame. Nothing is written of one that is too long. -/
def send (c : TcpConnection) (frame : Bytes) : Except TcpError Unit × TcpConnection :=
  match Framing.write c.limit frame with
  | .error e => (.error (.readWrite (.frame e)), c)
  | .ok b => (.ok (), { c with sent := c.sent ++ b })

/-- Sends frames one after the other. -/
def sendAll (c : TcpConnection) : List Bytes → List (Except TcpError Unit) × TcpConnection
  | [] => ([], c)
  | frame :: rest =>
      let (r, c) := c.send frame
      let (rs, c) := c.sendAll rest
      (r :: rs, c)

/-- Receives a frame. There is none after the end of the stream or after a fault. -/
def receive (c : TcpConnection) : Option (Except TcpError Bytes) × TcpConnection :=
  if c.failed then (none, c)
  else
    match c.reader.next c.limit c.incoming with
    | .error e => (some (.error (.readWrite (.frame e))), { c with failed := true })
    | .ok (frame, reader, incoming) =>
        (frame.map fun b => .ok (c.frameDecoding.decode (Storage.empty.write b)).bytes,
          { c with reader := reader, incoming := incoming })

/-- Receives frames up to the end of the stream, at most as many as `fuel` says. -/
def receiveUpTo (fuel : Nat) (c : TcpConnection) : List (Except TcpError Bytes) × TcpConnection :=
  match fuel with
  | 0 => ([], c)
  | fuel + 1 =>
      match c.receive with
      | (none, c) => ([], c)
      | (some r, c) =>
          let (rs, c) := receiveUpTo fuel c
          (r :: rs, c)

/-- The number of bytes that have not been used yet. -/
def pending (c : TcpConnection) : Nat :=
  c.reader.left.length + (c.incoming.map List.length).foldr (· + ·) 0

/-- Receives frames up to the end of the stream. Each frame but a faulty last one uses up a length
field, unless the length of the first has been used up already. -/
def receiveAll (c : TcpConnection) : List (Except TcpError Bytes) × TcpConnection :=
  c.receiveUpTo (c.pending + 2)

end TcpConnection

/-- A way to connect over TCP. -/
structure TcpTransport where
  address : ConnectAddress
  /-- Turns a host and a port into a socket address. -/
  resolve : HostPort → Except (Failure ResolutionError) SocketAddress

namespace TcpTransport

/-- A transport that resolves addresses without asking others. -/
def new (address : ConnectAddress) : TcpTransport :=
  ⟨address, fun a => (Resolution.resolve a).mapError .cause⟩

/-- Connects. The network says what comes from whoever listens at a socket address, or why no
connection to it is made. -/
def connect (t : TcpTransport) (network : SocketAddress → Except NetworkFault (List Bytes))
    (setup : ConnectionSetup) : Except TcpError TcpConnection :=
  match t.resolve t.address.hostPort with
  | .error e => .error (.resolver e)
  | .ok peer =>
      match network peer with
      | .error e => .error (.connect peer (.network e))
      | .ok incoming => .ok (.start setup peer incoming)

end TcpTransport

end SocketStrategies
