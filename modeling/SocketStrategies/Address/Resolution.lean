import SocketStrategies.Address.ConnectAddress

/-!
# Resolving addresses

A resolver turns a host and a port into a socket address. A host that is written as an IP
address stands for that address alone. Addresses of groups and the unspecified address are of
no use to a client and are left out; of what remains the first IPv4 address is taken, or else
the first of all.
-/

namespace SocketStrategies

inductive IpAddress where
  | v4 (x : Ipv4)
  | v6 (x : Ipv6)
  deriving DecidableEq

namespace IpAddress

def ofChars? (cs : List Char) : Option IpAddress :=
  match Ipv4.ofChars? cs with
  | some x => some (.v4 x)
  | none => (Ipv6.ofChars? cs).map .v6

def isV4 : IpAddress → Bool
  | .v4 _ => true
  | .v6 _ => false

/-- Whether a client can connect to it: it is neither a group's address nor unspecified. -/
def isUsable : IpAddress → Bool
  | .v4 x => !x.isMulticast && !x.isUnspecified
  | .v6 x => !x.isMulticast && !x.isUnspecified

end IpAddress

structure SocketAddress where
  ip : IpAddress
  port : UInt16
  deriving DecidableEq

/-- Writes a socket address. An IPv6 address stands in brackets. -/
def SocketAddress.render (a : SocketAddress) : String :=
  match a.ip with
  | .v4 x => x.render ++ ":" ++ toString a.port.toNat
  | .v6 x => "[" ++ x.renderMixed ++ "]:" ++ toString a.port.toNat

inductive ResolutionError where
  | lookup (address : HostPort)
  | notFound (address : HostPort)
  deriving DecidableEq, Repr

def ResolutionError.message : ResolutionError → String
  | .lookup a => "IO error for host " ++ a.render
  | .notFound a => "No valid address found for host " ++ a.render

namespace Resolution

/-- The addresses of a host, if it can be looked up. Only IP addresses can. -/
def lookup? (host : String) : Option (List IpAddress) := (IpAddress.ofChars? host.toList).map ([·])

/-- Chooses among the addresses of a host. -/
def choose? (found : List IpAddress) : Option IpAddress :=
  let usable := found.filter IpAddress.isUsable
  (usable.find? IpAddress.isV4).or usable.head?

/-- Resolves a host and a port. -/
def resolve (a : HostPort) : Except ResolutionError SocketAddress :=
  match lookup? a.host with
  | none => .error (.lookup a)
  | some found =>
      match choose? found with
      | none => .error (.notFound a)
      | some ip => .ok ⟨ip, a.port⟩

end Resolution

end SocketStrategies
