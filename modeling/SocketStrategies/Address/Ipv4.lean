import SocketStrategies.Decimal.Digits

/-!
# IPv4 addresses

Four bytes, written in decimal with dots between them. A byte is written without leading zeros,
and only that form is read.
-/

namespace SocketStrategies

structure Ipv4 where
  a : UInt8
  b : UInt8
  c : UInt8
  d : UInt8
  deriving DecidableEq, Repr

namespace Ipv4

/-- Reads a decimal byte: one digit, or up to three that do not start with zero. -/
def octet? (cs : List Char) : Option UInt8 :=
  let n := cs.foldl (fun n c => 10 * n + (c.toNat - 48)) 0
  if cs.isEmpty || !cs.all Char.isDigit || (cs.length != 1 && cs.head? == some '0') || 255 < n then
    none
  else some (UInt8.ofNat n)

def ofChars? (cs : List Char) : Option Ipv4 :=
  match cs.splitOn '.' with
  | [a, b, c, d] => do some ⟨← octet? a, ← octet? b, ← octet? c, ← octet? d⟩
  | _ => none

def render (x : Ipv4) : String :=
  String.intercalate "." ([x.a, x.b, x.c, x.d].map fun n => toString n.toNat)

/-- The address that means none in particular. -/
def isUnspecified (x : Ipv4) : Bool := x == ⟨0, 0, 0, 0⟩

/-- Whether the address is that of a group. -/
def isMulticast (x : Ipv4) : Bool := 224 ≤ x.a && x.a ≤ 239

end Ipv4

end SocketStrategies
