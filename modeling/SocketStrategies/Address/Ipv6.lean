import SocketStrategies.Address.Ipv4

/-!
# IPv6 addresses

Eight groups of sixteen bits, written in hexadecimal with colons between them. Once, two colons
may stand for one or more groups of zero, and the last two groups may be written as an IPv4
address. `render` gives the one canonical form: small letters, no leading zeros, and the first of
the longest runs of two or more zero groups left out.
-/

namespace SocketStrategies

structure Ipv6 where
  groups : List UInt16
  length_eq : groups.length = 8
  deriving DecidableEq

namespace Ipv6

/-- The address with some groups, if there are eight. -/
def ofGroups? (gs : List UInt16) : Option Ipv6 := if h : gs.length = 8 then some ⟨gs, h⟩ else none

/-! ## Reading -/

def hexValue? (c : Char) : Option Nat :=
  if c.isDigit then some (c.toNat - 48)
  else if 'a' ≤ c && c ≤ 'f' then some (c.toNat - 87)
  else if 'A' ≤ c && c ≤ 'F' then some (c.toNat - 55)
  else none

/-- Reads one group: one to four hexadecimal digits. -/
def group? (cs : List Char) : Option UInt16 :=
  if cs.isEmpty || 4 < cs.length then none
  else (cs.mapM hexValue?).map fun ds => UInt16.ofNat (ds.foldl (fun n d => 16 * n + d) 0)

/-- The two groups that an IPv4 address fills. -/
def ofIpv4 (x : Ipv4) : List UInt16 :=
  [UInt16.ofNat (x.a.toNat * 256 + x.b.toNat), UInt16.ofNat (x.c.toNat * 256 + x.d.toNat)]

def fields? (quad : Bool) : List (List Char) → Option (List UInt16)
  | [] => some []
  | [f] =>
      match group? f with
      | some g => some [g]
      -- the last field may be an IPv4 address, where `quad` permits it
      | none => if quad then (Ipv4.ofChars? f).map ofIpv4 else none
  | f :: rest => do
      let g ← group? f
      let gs ← fields? quad rest
      some (g :: gs)

/-- Reads a part that may be empty. -/
def part? (quad : Bool) (cs : List Char) : Option (List UInt16) :=
  if cs.isEmpty then some [] else fields? quad (cs.splitOn ':')

/-- Cuts at the first pair of colons. -/
def cutGap? : List Char → Option (List Char × List Char)
  | [] => none
  | ':' :: ':' :: rest => some ([], rest)
  | c :: rest => (cutGap? rest).map fun r => (c :: r.1, r.2)

def ofChars? (cs : List Char) : Option Ipv6 :=
  match cutGap? cs with
  | none => (fields? true (cs.splitOn ':')).bind ofGroups?
  | some (front, back) => do
      let fs ← part? false front
      let bs ← part? true back
      if fs.length + bs.length ≤ 7 then
        ofGroups? (fs ++ List.replicate (8 - (fs.length + bs.length)) 0 ++ bs)
      else none

/-! ## Writing -/

/-- The length of the run of zero groups at the front. -/
def zeroRun (gs : List UInt16) : Nat := (gs.takeWhile (· == 0)).length

/-- The first of the longest runs of zero groups, as its start and its length. -/
def longestRun (gs : List UInt16) : Nat × Nat :=
  (List.range gs.length).foldl (fun best i =>
    let n := zeroRun (gs.drop i)
    if best.2 < n then (i, n) else best) (0, 0)

/-- Groups with colons between them. -/
def renderGroups (gs : List UInt16) : String :=
  String.intercalate ":" (gs.map fun g => String.ofList (Nat.toDigits 16 g.toNat))

/-- Writes an address in its canonical form. -/
def render (x : Ipv6) : String :=
  let (start, n) := longestRun x.groups
  if n < 2 then renderGroups x.groups
  else renderGroups (x.groups.take start) ++ "::" ++ renderGroups (x.groups.drop (start + n))

/-- The IPv4 address that is written into this one. -/
def mapped? (x : Ipv6) : Option Ipv4 :=
  match x.groups with
  | [0, 0, 0, 0, 0, 0xFFFF, g, h] =>
      some ⟨UInt8.ofNat (g.toNat / 256), UInt8.ofNat g.toNat, UInt8.ofNat (h.toNat / 256),
        UInt8.ofNat h.toNat⟩
  | _ => none

/-- Writes an address with a mapped IPv4 address in its own form. -/
def renderMixed (x : Ipv6) : String :=
  match x.mapped? with
  | some q => "::ffff:" ++ q.render
  | none => x.render

/-- The address that means none in particular. -/
def isUnspecified (x : Ipv6) : Bool := x.groups.all (· == 0)

/-- Whether the address is that of a group. -/
def isMulticast (x : Ipv6) : Bool :=
  match x.groups with
  | g :: _ => 0xFF00 ≤ g
  | [] => false

end Ipv6

end SocketStrategies
