import SocketStrategies.Payload.Schema

/-!
# Payload types

The types of values that codecs convert: byte strings in one of three containers, literal text,
and the types with a written form. A payload is a value together with its type.
-/

namespace SocketStrategies

/-- How a byte string is held. -/
inductive Container where
  /-- Shared and immutable. -/
  | shared
  /-- Owned by one holder. -/
  | owned
  /-- Owned and growable. -/
  | growable
  deriving DecidableEq, Repr

/-- The type of a payload. -/
inductive PayloadType where
  /-- A type with written forms. -/
  | schema (s : Schema)
  /-- Text that is part of the program. -/
  | literal
  | raw (c : Container)
  deriving DecidableEq, Repr

namespace PayloadType

abbrev Carrier : PayloadType → Type
  | .schema s => s.Carrier
  | .literal => String
  | .raw _ => Bytes

/-- The full name of a type, as messages give it. -/
def fullName : PayloadType → String
  | .schema .text => "alloc::string::String"
  | .schema .word => "u32"
  | .schema .integer => "i64"
  | .schema .quote => "oracle_driver::codecs::Quote"
  | .schema .event => "oracle_driver::codecs::Event"
  | .schema .document => "serde_json::value::Value"
  | .schema .table =>
      "alloc::collections::btree::map::BTreeMap<alloc::vec::Vec<u8>, u32>"
  | .literal => "&str"
  | .raw .shared => "bytes::bytes::Bytes"
  | .raw .owned => "alloc::vec::Vec<u8>"
  | .raw .growable => "bytes::bytes_mut::BytesMut"

end PayloadType

structure Payload where
  type : PayloadType
  value : type.Carrier

end SocketStrategies
