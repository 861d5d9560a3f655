import SocketStrategies.Address.Domain.Ascii
import SocketStrategies.Address.Ipv6
import SocketStrategies.Text.Basic

/-!
# Locators

A locator names a scheme and, after two slashes, an authority: credentials, a host and a
port. It is read by the rules of the URL standard; path, query and fragment may hold anything
and are not kept.

A few schemes are special. Their hosts are IP addresses or domain names, which are brought into
ASCII, while the host of any other scheme is kept as it is with control characters and characters
beyond ASCII percent-encoded. A host in brackets is always an IPv6 address.
-/

namespace SocketStrategies

/-- The host of a locator. -/
inductive Host where
  | name (s : String)
  | ipv6 (x : Ipv6)
  deriving DecidableEq

/-- The host as text, without brackets. -/
def Host.text : Host → String
  | .name s => s
  | .ipv6 x => x.render

/-- A scheme with the host and the port that are given with it. -/
structure Locator where
  scheme : String
  host : Option Host
  /-- The port, if one is given that is not the scheme's own. -/
  port : Option UInt16
  deriving DecidableEq

namespace Locator

/-- How the host of a scheme is read. -/
inductive SchemeKind where
  /-- The scheme of files, which have no port. -/
  | file
  /-- Another special scheme, with its own port. -/
  | special (port : UInt16)
  | plain
  deriving DecidableEq

def kindOf (scheme : String) : SchemeKind :=
  if scheme == "file" then .file
  else if scheme == "http" || scheme == "ws" then .special 80
  else if scheme == "https" || scheme == "wss" then .special 443
  else if scheme == "ftp" then .special 21
  else .plain

/-! ## Scheme -/

/-- Takes blanks and control characters off both ends and tabs and line ends out of the middle. -/
def clean (cs : List Char) : List Char :=
  (Text.trimBoth (fun c => c.toNat ≤ 32) cs).filter fun c => c != '\t' && c != '\n' && c != '\r'

/-- Reads the scheme up to its colon: a letter, then letters, digits, plus, minus and dot. -/
def scheme? (cs : List Char) : Option (String × List Char) :=
  let isPart (c : Char) : Bool := c.isAlphanum || c == '+' || c == '-' || c == '.'
  match cs.takeWhile isPart, cs.dropWhile isPart with
  | c :: name, ':' :: rest =>
      if c.isAlpha then some (String.ofList ((c :: name).map Char.toLower), rest) else none
  | _, _ => none

/-! ## Hosts -/

/-- Characters that no host may hold. -/
def isForbidden (c : Char) : Bool :=
  c ∈ ['\x00', '\t', '\n', '\r', ' ', '#', '/', ':', '<', '>', '?', '@', '[', '\\', ']', '^', '|']

def hexDigit (n : Nat) : Char := (Nat.digitChar n).toUpper

/-- A byte as a percent sign and two digits. -/
def percentEncode (b : UInt8) : List Char :=
  ['%', hexDigit (b.toNat / 16), hexDigit (b.toNat % 16)]

/-- A character of a host: printable ASCII as it is, the bytes of any other percent-encoded. -/
def encodeHostChar (c : Char) : List Char :=
  if 32 ≤ c.toNat && c.toNat < 127 then [c] else (Utf8.encode c.toString).flatMap percentEncode

/-- Reads an address in brackets, with the opening one already taken. -/
def bracketed? (cs : List Char) : Option Host :=
  match cs.reverse with
  | ']' :: inner => (Ipv6.ofChars? inner.reverse).map .ipv6
  | _ => none

def plainHost? (cs : List Char) : Option Host :=
  match cs with
  | '[' :: rest => bracketed? rest
  | _ =>
      if cs.any isForbidden then none else some (.name (String.ofList (cs.flatMap encodeHostChar)))

/-- Replaces each percent sign with two hexadecimal digits by the byte they stand for. -/
def percentDecode : List Char → Bytes
  | [] => []
  | '%' :: a :: b :: rest =>
      match Ipv6.hexValue? a, Ipv6.hexValue? b with
      | some x, some y => UInt8.ofNat (16 * x + y) :: percentDecode rest
      | _, _ => 37 :: percentDecode (a :: b :: rest)
  | c :: rest => Utf8.encode c.toString ++ percentDecode rest

/-- Reads a number that is part of an IPv4 address: decimal, octal after a zero, hexadecimal after
`0x`. -/
def addressNumber? (cs : List Char) : Option Nat :=
  let value (radix : Nat) (ds : List Char) : Option Nat := do
    let ns ← ds.mapM Ipv6.hexValue?
    if ns.all (· < radix) then some (ns.foldl (fun n d => radix * n + d) 0) else none
  match cs with
  | [] => none
  | '0' :: 'x' :: rest | '0' :: 'X' :: rest => value 16 rest
  | '0' :: c :: rest => value 8 (c :: rest)
  | _ => value 10 cs

/-- The parts of a domain, without the empty one after a last dot. -/
def domainParts (cs : List Char) : List (List Char) :=
  let parts := cs.splitOn '.'
  if 1 < parts.length && parts.getLast? == some [] then parts.dropLast else parts

/-- Whether a domain must be an IPv4 address because its last part is a number. -/
def endsInNumber (cs : List Char) : Bool :=
  match (domainParts cs).getLast? with
  | none => false
  | some last => (!last.isEmpty && last.all Char.isDigit) || (addressNumber? last).isSome

/-- Whether a domain that ends in a number is an IPv4 address. -/
def isAddress (cs : List Char) : Bool :=
  match (domainParts cs).mapM addressNumber? with
  | none => false
  | some ns =>
      match ns.reverse with
      | [] => false
      | last :: front =>
          front.length ≤ 3 && front.all (· ≤ 255) && last < Nat.pow 256 (4 - front.length)

/-- Reads the host of a special scheme: what counts is the domain name after percent-decoding. -/
def specialHost? (cs : List Char) : Option Host :=
  match cs with
  | '[' :: rest => bracketed? rest
  | _ => do
      let domain ← Utf8.decode? (percentDecode cs)
      let ds ← Domain.toAscii? domain.toList
      if ds.isEmpty
          || ds.any fun c => isForbidden c || c.toNat < 32 || c == '%' || c == '\x7f' then none
      else if endsInNumber ds && !isAddress ds then none
      else some (.name (String.ofList ds))

/-! ## Authority -/

/-- Whether a character ends the authority. A backslash does so in special schemes. -/
def endsAuthority (special : Bool) (c : Char) : Bool :=
  c == '/' || c == '?' || c == '#' || (special && c == '\\')

/-- Takes the credentials off the front, up to the last at sign of the authority. Says
whether there are any. -/
def credentials? (special : Bool) (cs : List Char) : Option (Bool × List Char) :=
  let authority := cs.takeWhile fun c => !endsAuthority special c
  let after := cs.dropWhile fun c => !endsAuthority special c
  if '@' ∈ authority then
    let host := (authority.reverse.takeWhile (· != '@')).reverse
    let before := authority.take (authority.length - host.length - 1)
    -- an at sign with nothing on either side of it is refused unless the text ends there
    if before.isEmpty && host.isEmpty && !after.isEmpty then none
    else some (!before.isEmpty && before != [':'], host ++ after)
  else some (false, cs)

/-- Splits the host off the front. It ends before a colon outside brackets. -/
def splitHost (special : Bool) : (inside : Bool) → List Char → List Char × List Char
  | _, [] => ([], [])
  | inside, c :: rest =>
      if (c == ':' && !inside) || endsAuthority special c then ([], c :: rest)
      else
        let inside := if c == '[' then true else if c == ']' then false else inside
        let (host, left) := splitHost special inside rest
        (c :: host, left)

/-- Reads a port after its colon: digits up to the end of the authority, none at all included. -/
def port? (cs : List Char) : Option (Option UInt16) :=
  let ds := cs.takeWhile Char.isDigit
  let n := ds.foldl (fun n c => 10 * n + (c.toNat - 48)) 0
  match cs.dropWhile Char.isDigit with
  | c :: _ => if !endsAuthority true c then none else value ds n
  | [] => value ds n
where
  /-- The port that digits stand for, if it fits. -/
  value (ds : List Char) (n : Nat) : Option (Option UInt16) :=
    if 65535 < n then none else some (if ds.isEmpty then none else some (UInt16.ofNat n))

def authority? (scheme : String) (own : Option UInt16) (cs : List Char) : Option Locator := do
  let special := own.isSome
  let (credentials, cs) ← credentials? special cs
  let (hostText, rest) := splitHost special false cs
  let host ← if special then specialHost? hostText else plainHost? hostText
  let port ← match rest with
    | ':' :: rest => if hostText.isEmpty then none else port? rest
    | _ => some none
  if hostText.isEmpty then (if credentials then none else some ⟨scheme, none, none⟩)
  else some ⟨scheme, some host, if port == own then none else port⟩

/-- Reads the host of a file, if there is one. -/
def file? (scheme : String) (cs : List Char) : Option Locator :=
  let isSlash (c : Char) : Bool := c == '/' || c == '\\'
  let isDrive : List Char → Bool
    | [c, d] => c.isAlpha && (d == ':' || d == '|')
    | _ => false
  match cs with
  | a :: b :: rest =>
      if isSlash a && isSlash b then
        let hostText := rest.takeWhile fun c => !endsAuthority true c
        if hostText.isEmpty || isDrive hostText then some ⟨scheme, none, none⟩
        else (specialHost? hostText).map fun h => ⟨scheme, some h, none⟩
      else some ⟨scheme, none, none⟩
  | _ => some ⟨scheme, none, none⟩

def parse? (s : String) : Option Locator := do
  let (scheme, rest) ← scheme? (clean s.toList)
  match kindOf scheme with
  | .file => file? scheme rest
  | .special port => authority? scheme (some port) (rest.dropWhile fun c => c == '/' || c == '\\')
  | .plain =>
      match rest with
      | '/' :: '/' :: rest => authority? scheme none rest
      | _ => some ⟨scheme, none, none⟩

end Locator

end SocketStrategies
