import SocketStrategies.Dict
import SocketStrategies.Text.Basic
import SocketStrategies.Text.Inspect

/-!
# Media types

A media type names a data format: a main type, a subtype and parameters. Types and subtypes
compare without regard to ASCII case, parameters compare exactly; a media type made by `make` or
by the parser is in lower case anyway.

`equivalent` is the equality that the rest of the library goes by, and `fingerprint` writes down
what an equivalence class consists of.
-/

namespace SocketStrategies

/-- A data format such as `text/plain;charset=utf-8`. -/
structure MediaType where
  mainType : String
  subtype : String
  parameters : Dict String String
  deriving DecidableEq, Inhabited

namespace MediaType

/-- A media type without parameters, spelt exactly as given. -/
def verbatim (mainType subtype : String) : MediaType := ⟨mainType, subtype, .empty⟩

/-- A media type without parameters, in lower case. -/
def make (mainType subtype : String) : MediaType :=
  verbatim (Text.lower mainType) (Text.lower subtype)

/-- Sets a parameter. Its name goes into lower case, its value stays as it is. -/
def withParameter (m : MediaType) (name value : String) : MediaType :=
  { m with parameters := m.parameters.insert (Text.lower name) value }

/-- Looks a parameter up by its name in any case. -/
def parameter? (m : MediaType) (name : String) : Option String :=
  m.parameters.get? (Text.lower name)

/-- The same format without its parameters, in lower case. -/
def bare (m : MediaType) : MediaType := make m.mainType m.subtype

/-! ## Equality -/

/-- Whether type and subtype agree, parameters aside. -/
def sameFormat (a b : MediaType) : Bool :=
  Text.sameCaseless a.mainType b.mainType && Text.sameCaseless a.subtype b.subtype

/-- Whether two media types count as equal: the same format with the same parameters. -/
def equivalent (a b : MediaType) : Bool := sameFormat a b && a.parameters == b.parameters

/-- A text in a fingerprint. No UTF-8 text holds the byte that ends it. -/
def fingerprintText (s : String) : Bytes := Utf8.encode s ++ [0xFF]

/-- The bytes that stand for a media type where it is looked up by hash: the folded type and
subtype, then the number of parameters and each of them. -/
def fingerprint (m : MediaType) : Bytes :=
  fingerprintText (Text.lower m.mainType) ++ fingerprintText (Text.lower m.subtype)
    ++ Bytes.littleEndian 8 m.parameters.toList.length
    ++ m.parameters.toList.flatMap fun p => fingerprintText p.1 ++ fingerprintText p.2

/-! ## Wildcards -/

/-- Whether the main type stands for every type. -/
def isWildcardType (m : MediaType) : Bool := m.mainType == "*"

/-- The suffix that a subtype like `*+json` asks for. -/
def wildcardSuffix? (m : MediaType) : Option String :=
  match m.subtype.toList with
  | '*' :: '+' :: suffix => some (String.ofList suffix)
  | _ => none

/-- Whether the subtype stands for every subtype, or for every one of some suffix. -/
def isWildcardSubtype (m : MediaType) : Bool := m.subtype == "*" || m.wildcardSuffix?.isSome

def isConcrete (m : MediaType) : Bool := !m.isWildcardType && !m.isWildcardSubtype

/-- The part of the subtype after its last plus sign. -/
def suffix? (m : MediaType) : Option String :=
  let cs := m.subtype.toList
  if '+' ∈ cs then some (String.ofList (cs.reverse.takeWhile (· != '+')).reverse) else none

/-- Whether the suffix that `a` asks for is the suffix of `b`. -/
def includesSuffix (a b : MediaType) : Bool :=
  match a.wildcardSuffix?, b.suffix? with
  | some asked, some found => Text.sameCaseless asked found
  | _, _ => false

/-- Whether everything that `b` stands for is also covered by `a`: `text/*` includes `text/plain`,
and `application/*+xml` includes `application/soap+xml`. -/
def includes (a b : MediaType) : Bool :=
  a.isWildcardType
    || (Text.sameCaseless a.mainType b.mainType
      && (Text.sameCaseless a.subtype b.subtype || a.subtype == "*" || includesSuffix a b))

def isCompatible (a b : MediaType) : Bool := includes a b || includes b a

/-! ## Written forms -/

/-- The written form: `type/subtype`, then each parameter in the order of their names. -/
def render (m : MediaType) : String :=
  m.mainType ++ "/" ++ m.subtype
    ++ String.join (m.parameters.toList.map fun p => ";" ++ p.1 ++ "=" ++ p.2)

def renderList (ms : List MediaType) : String := Inspect.list (ms.map render)

/-- The written form where there is one, else `any`. -/
def renderOptional : Option MediaType → String
  | none => "any"
  | some m => m.render

def inspect (m : MediaType) : String :=
  Inspect.record "MimeType"
    [("type_", Inspect.text m.mainType), ("subtype", Inspect.text m.subtype),
      ("parameters", Inspect.table
        (m.parameters.toList.map fun p => (Inspect.text p.1, Inspect.text p.2)))]

/-! ## Formats with a name of their own -/

def any : MediaType := verbatim "*" "*"

def textPlain : MediaType := verbatim "text" "plain"

def json : MediaType := verbatim "application" "json"

def xml : MediaType := verbatim "application" "xml"

def cbor : MediaType := verbatim "application" "cbor"

def octetStream : MediaType := verbatim "application" "octet-stream"

def compactBinary : MediaType := verbatim "application" "x-bincode"

/-- Routing metadata: a list of tags. -/
def routing : MediaType := verbatim "message" "x.rsocket.routing.v0"

/-- Composite metadata: a list of entries, each with its own media type. -/
def compositeMetadata : MediaType := verbatim "message" "x.rsocket.composite-metadata.v0"

end MediaType

end SocketStrategies
