import SocketStrategies.Buffer.Factory
import SocketStrategies.Payload.Record

/-!
# Types with a written form

A schema is a type whose values have a form in a wire format: JSON or compact binary data. Writing
puts out bytes and may stop; reading JSON takes the whole input, and reading binary data takes
what it needs from the front.

Two values have no form of some kind: a table with rows cannot be written as JSON, since its keys
are no texts, and a JSON value cannot be read from binary data, which does not say what it holds.
-/

namespace SocketStrategies

/-- A type whose values have written forms. -/
inductive Schema where
  | text
  | word
  | integer
  | quote
  | event
  | document
  /-- Numbers by byte strings. -/
  | table
  deriving DecidableEq, Repr

inductive WireFormat where
  | json
  | binary
  deriving DecidableEq, Repr

namespace Schema

/-- The values of a schema. -/
abbrev Carrier : Schema → Type
  | .text => String
  | .word => UInt32
  | .integer => Int64
  | .quote => Quote
  | .event => Event
  | .document => Json.Document
  | .table => Dict Bytes UInt32

/-! ## JSON -/

/-- Writes a value as JSON. A table stops at its first key, after the brace that opens it. -/
def writeJson : (s : Schema) → s.Carrier → Output Unit
  | .text, v => .done (Json.writeText v)
  | .word, v => .done (Json.Numeral.ofInt v.toNat).write
  | .integer, v => .done (Json.Numeral.ofInt v.toInt).write
  | .quote, v => .done v.toTree.write
  | .event, v => .done v.toTree.write
  | .document, v => .done v.toTree.write
  | .table, v => if v.isEmpty then .done [123, 125] else ⟨[123], some ()⟩

/-- The value that a JSON tree describes. -/
def ofTree? : (s : Schema) → Json.Tree → Option s.Carrier
  | .text, t => t.text?
  | .word, t => (t.integer? 0 0xFFFFFFFF).map fun i => UInt32.ofNat i.toNat
  | .integer, t => (t.integer? (-0x8000000000000000) 0x7FFFFFFFFFFFFFFF).map Int64.ofInt
  | .quote, t => Quote.ofTree? t
  | .event, t => Event.ofTree? t
  | .document, t => Json.Document.read? t
  | .table, t => match t with
    | .object [] => some .empty
    | _ => none

def readJson (s : Schema) (b : Bytes) : Option s.Carrier := (Json.read? b).bind s.ofTree?

/-! ## Compact binary data -/

mutual

/-- Writes the content of a JSON value, without saying what it is. -/
def writeDocument : Json.Document → Bytes
  | .null => []
  | .bool b => Binary.writeBool b
  | .integer i => Bytes.littleEndian 8 (i.value % 0x10000000000000000).toNat
  | .real bits => Binary.writeUInt64 bits
  | .text s => Binary.writeText s
  | .array items => Binary.writeLength items.length ++ writeItems items
  | .object fields => Binary.writeLength fields.length ++ writeFields fields

def writeItems : List Json.Document → Bytes
  | [] => []
  | d :: rest => writeDocument d ++ writeItems rest

def writeFields : List (String × Json.Document) → Bytes
  | [] => []
  | (n, d) :: rest => Binary.writeText n ++ writeDocument d ++ writeFields rest

end

def writeBinary : (s : Schema) → s.Carrier → Bytes
  | .text, v => Binary.writeText v
  | .word, v => Binary.writeUInt32 v
  | .integer, v => Binary.writeInt64 v
  | .quote, v => v.write
  | .event, v => v.write
  | .document, v => writeDocument v
  | .table, v =>
      Binary.writeList (fun e => Binary.writeBytes e.1 ++ Binary.writeUInt32 e.2) v.toList

/-- Reads a row of a table. -/
def readRow : Binary.Reader (Bytes × UInt32) := fun b => do
  let (key, b) ← Binary.readBytes b
  let (value, b) ← Binary.readUInt32 b
  some ((key, value), b)

/-- Reads a value from the front of binary data. -/
def readBinary : (s : Schema) → Binary.Reader s.Carrier
  | .text => Binary.readText
  | .word => Binary.readUInt32
  | .integer => Binary.readInt64
  | .quote => Quote.read
  | .event => Event.read
  | .document => fun _ => none
  | .table => fun b => (Binary.readList readRow b).map fun r => (Dict.ofList r.1, r.2)

/-! ## Either format -/

def write (s : Schema) : WireFormat → s.Carrier → Output Unit
  | .json, v => s.writeJson v
  | .binary, v => .done (s.writeBinary v)

def read? (s : Schema) : WireFormat → Bytes → Option s.Carrier
  | .json, b => s.readJson b
  | .binary, b => (s.readBinary b).map (·.1)

end Schema

end SocketStrategies
