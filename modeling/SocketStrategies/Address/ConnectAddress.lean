import SocketStrategies.Address.Locator
import SocketStrategies.Json.Reader

/-!
# Connect addresses

A connect address says where a responder listens: a transport scheme, a host and a port. It
is written like a locator, though an IPv6 host loses its brackets, and it has a JSON form
of three fields.
-/

namespace SocketStrategies

/-- A host and a port, not looked up yet. -/
structure HostPort where
  host : String
  port : UInt16
  deriving DecidableEq, Repr

def HostPort.render (a : HostPort) : String := a.host ++ ":" ++ toString a.port.toNat

inductive TransportScheme where
  | tcp
  deriving DecidableEq, Repr

namespace TransportScheme

def name : TransportScheme → String
  | .tcp => "tcp"

def jsonName : TransportScheme → String
  | .tcp => "Tcp"

def ofName? (s : String) : Option TransportScheme := if s == "tcp" then some .tcp else none

/-- The scheme that a JSON tree gives: its name, or an object with the name as its one field. -/
def ofTree? : Json.Tree → Option TransportScheme
  | .text (some "Tcp") => some .tcp
  | .object [(some "Tcp", .null)] => some .tcp
  | _ => none

end TransportScheme

structure ConnectAddress where
  scheme : TransportScheme
  host : String
  port : UInt16
  deriving DecidableEq, Repr

/-- Why a text is no connect address. Each fault carries what its wording quotes. -/
inductive AddressError where
  | wrongFormat (input : String)
  /-- The scheme is not one of a transport. -/
  | unexpectedScheme (scheme : String)
  | portNotFound (input : String)
  | hostNotFound (input : String)
  deriving DecidableEq, Repr

def AddressError.message : AddressError → String
  | .wrongFormat input =>
      "wrong connect address format: " ++ input ++ ", expected: 'tcp://example.com:7000'"
  | .unexpectedScheme scheme => "unexpected scheme: " ++ scheme
  | .portNotFound input => "port number not found in " ++ input
  | .hostNotFound input => "host not found in " ++ input

namespace ConnectAddress

/-- An address to reach over TCP. The host is taken as it is. -/
def tcp (host : String) (port : UInt16) : ConnectAddress := ⟨.tcp, host, port⟩

def hostPort (a : ConnectAddress) : HostPort := ⟨a.host, a.port⟩

def render (a : ConnectAddress) : String := a.scheme.name ++ "://" ++ a.hostPort.render

/-- Reads an address. The scheme is looked at before the port, the port before the host. -/
def parse (s : String) : Except AddressError ConnectAddress :=
  match Locator.parse? s with
  | none => .error (.wrongFormat s)
  | some l =>
      match TransportScheme.ofName? l.scheme, l.port, l.host with
      | none, _, _ => .error (.unexpectedScheme l.scheme)
      | some _, none, _ => .error (.portNotFound s)
      | some _, some _, none => .error (.hostNotFound s)
      | some scheme, some port, some host => .ok ⟨scheme, host.text, port⟩

/-! ## JSON -/

def toTree (a : ConnectAddress) : Json.Tree :=
  .object [(some "scheme", .text (some a.scheme.jsonName)), (some "host", .text (some a.host)),
    (some "port", .number (.ofInt a.port.toNat))]

def ofTree? (t : Json.Tree) : Option ConnectAddress := do
  match ← t.record? ["scheme", "host", "port"] with
  | [some scheme, some host, some port] => do
      let scheme ← TransportScheme.ofTree? scheme
      let host ← host.text?
      let port ← port.integer? 0 0xFFFF
      some ⟨scheme, host, UInt16.ofNat port.toNat⟩
  | _ => none

def toJson (a : ConnectAddress) : String := (Utf8.decode? a.toTree.write).getD ""

def ofJson? (text : String) : Option ConnectAddress :=
  (Json.read? (Utf8.encode text)).bind ofTree?

end ConnectAddress

end SocketStrategies
