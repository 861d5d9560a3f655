import SocketStrategies.MediaType.Basic
import SocketStrategies.Payload.Type

/-!
# Codecs

A decoder makes payloads out of bytes and an encoder makes bytes out of payloads. Each advertises
the media types it handles and says which payload type it is for. Text codecs handle text in any
format, or plain text only; raw codecs hand bytes on unchanged in any format; structured codecs
handle one schema in one wire format.

`Decoder.declared` only declares formats. It makes a value of no payload type, so that asking
it for one fails.
-/

namespace SocketStrategies

/-- Why a codec failed. Codecs are given by the names that messages use. -/
inductive CodecError where
  /-- The codec is not for this type or this format. -/
  | unsupported (codec subject : String) (format : Option MediaType)
  /-- The value has no written form. -/
  | encode (codec : String)
  /-- The bytes are no written form of a value. -/
  | decode (codec : String)
  /-- The decoder made a value of another type. -/
  | wrongType (wanted : PayloadType)
  deriving DecidableEq

def CodecError.message : CodecError → String
  | .unsupported codec subject format =>
      codec ++ " cannot handle " ++ subject ++ " as " ++ MediaType.renderOptional format
  | .encode codec => codec ++ " encode error"
  | .decode codec => codec ++ " decode error"
  | .wrongType wanted => "decoded value is not a " ++ wanted.fullName

/-- Whether a wanted format is among those advertised, or none is wanted. -/
def supports (advertised : List MediaType) : Option MediaType → Bool
  | none => true
  | some m => advertised.any fun a => a.isCompatible m

inductive TextFormats where
  | plainOnly
  /-- Plain text first, then any other. -/
  | all
  deriving DecidableEq, Repr

/-- The media types that a text codec advertises. -/
def TextFormats.mediaTypes : TextFormats → List MediaType
  | .plainOnly => [.textPlain]
  | .all => [.textPlain, .any]

def Container.codecName : Container → String
  | .shared => "BytesCodec"
  | .owned => "VecCodec"
  | .growable => "BytesMutCodec"

namespace WireFormat

def mediaType : WireFormat → MediaType
  | .json => .json
  | .binary => .compactBinary

/-- The full name of a wire format, as messages give it. -/
def fullName : WireFormat → String
  | .json => "rsocket_common::codec::json::Json"
  | .binary => "rsocket_common::codec::bincode::Bincode"

end WireFormat

/-- Makes payloads out of bytes. -/
inductive Decoder where
  | text (formats : TextFormats)
  | raw (container : Container)
  | structured (format : WireFormat) (schema : Schema) (advertised : List MediaType)
  /-- Only declares formats; `claims` says whether it claims to make every type. -/
  | declared (formats : List MediaType) (claims : Bool)
  deriving DecidableEq

namespace Decoder

/-- The decoder of a schema that advertises its wire format's own media type. -/
def ofSchema (format : WireFormat) (schema : Schema) : Decoder :=
  .structured format schema [format.mediaType]

def name : Decoder → String
  | .text _ => "StringCodec"
  | .raw c => c.codecName
  | .structured .. => "SerdeDecoder"
  | .declared .. => "FormatDecoder"

/-- The formats it advertises, the most specific first. -/
def mediaTypes : Decoder → List MediaType
  | .text formats => formats.mediaTypes
  | .raw _ => [.any]
  | .structured _ _ advertised => advertised
  | .declared formats _ => formats

/-- Whether it makes values of a type from a format. -/
def canDecode (d : Decoder) (target : PayloadType) (format : Option MediaType) : Bool :=
  match d with
  | .text formats => target == .schema .text && supports formats.mediaTypes format
  | .raw c => target == .raw c
  | .structured _ schema advertised => target == .schema schema && supports advertised format
  | .declared _ claims => claims

/-- Decodes bytes. The result is nothing if the decoder made a value of no payload type. -/
def decode (d : Decoder) (b : Bytes) (target : PayloadType) (format : Option MediaType) :
    Except CodecError (Option Payload) :=
  let made (codec : String) (value : Option Payload) : Except CodecError (Option Payload) :=
    if d.canDecode target format then
      match value with
      | some p => .ok (some p)
      | none => .error (.decode codec)
    else .error (.unsupported codec "requested type" format)
  match d with
  | .text _ => made d.name ((Utf8.decode? b).map fun s => ⟨.schema .text, s⟩)
  | .raw c => made d.name (some ⟨.raw c, b⟩)
  | .structured wire schema _ =>
      made wire.fullName ((schema.read? wire b).map fun v => ⟨.schema schema, v⟩)
  | .declared .. => .ok none

/-- Decodes bytes into a value of a type. -/
def decodeTo (d : Decoder) (target : PayloadType) (b : Bytes) (format : Option MediaType) :
    Except CodecError target.Carrier := do
  match ← d.decode b target format with
  | some p => if h : p.type = target then .ok (h ▸ p.value) else .error (.wrongType target)
  | none => .error (.wrongType target)

def inspectStructured (format : WireFormat) (schema : Schema) (advertised : List MediaType) :
    String :=
  Inspect.record "SerdeDecoder"
    [("codec", Inspect.text format.fullName),
      ("target", Inspect.text (PayloadType.schema schema).fullName),
      ("mime_types", Inspect.list (advertised.map MediaType.inspect))]

end Decoder

/-- Makes bytes out of payloads. -/
inductive Encoder where
  | text (formats : TextFormats)
  | raw (container : Container)
  | structured (format : WireFormat) (schema : Schema)
  deriving DecidableEq

namespace Encoder

def name : Encoder → String
  | .text _ => "StringCodec"
  | .raw c => c.codecName
  | .structured .. => "SerdeEncoder"

def mediaTypes : Encoder → List MediaType
  | .text formats => formats.mediaTypes
  | .raw _ => [.any]
  | .structured format _ => [format.mediaType]

/-- Whether it writes values of a type in a format. -/
def canEncode (e : Encoder) (source : PayloadType) (format : Option MediaType) : Bool :=
  match e with
  | .text formats =>
      (source == .schema .text || source == .literal) && supports formats.mediaTypes format
  | .raw c => source == .raw c
  | .structured wire schema => source == .schema schema && supports [wire.mediaType] format

/-- Writes a payload into a buffer from a factory. A payload of another type or format is refused
before a buffer is allocated. -/
def encode (e : Encoder) (p : Payload) (format : Option MediaType) (f : Factory) :
    Except CodecError Buffer × Factory :=
  match e, p with
  | .text formats, ⟨.schema .text, s⟩ | .text formats, ⟨.literal, s⟩ =>
      if supports formats.mediaTypes format then f.emit (Utf8.length s) (.done (Utf8.encode s))
      else (.error (.unsupported e.name "non-string value" format), f)
  | .text _, _ => (.error (.unsupported e.name "non-string value" format), f)
  | .raw c, ⟨.raw c', b⟩ =>
      if c' = c then f.emit b.length (.done b)
      else (.error (.unsupported e.name (PayloadType.raw c).fullName format), f)
  | .raw c, _ => (.error (.unsupported e.name (PayloadType.raw c).fullName format), f)
  | .structured wire s, ⟨.schema s', v⟩ =>
      if s' = s ∧ supports [wire.mediaType] format then
        let o := s'.write wire v
        f.emit 0 ⟨o.bytes, o.failure.map fun _ => .encode wire.fullName⟩
      else (.error (.unsupported wire.fullName (PayloadType.schema s).fullName format), f)
  | .structured wire s, _ =>
      (.error (.unsupported wire.fullName (PayloadType.schema s).fullName format), f)

def inspectStructured (format : WireFormat) (schema : Schema) : String :=
  Inspect.record "SerdeEncoder"
    [("codec", Inspect.text format.fullName),
      ("source", Inspect.text (PayloadType.schema schema).fullName)]

end Encoder

/-- The first decoder that makes values of a type from a format. -/
def findDecoder? (ds : List Decoder) (target : PayloadType) (format : Option MediaType) :
    Option Decoder := ds.find? (·.canDecode target format)

/-- The first encoder that writes values of a type in a format. -/
def findEncoder? (es : List Encoder) (source : PayloadType) (format : Option MediaType) :
    Option Encoder := es.find? (·.canEncode source format)

end SocketStrategies
