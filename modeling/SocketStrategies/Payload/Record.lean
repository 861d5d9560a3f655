import SocketStrategies.Binary.Format
import SocketStrategies.Json.Document

/-!
# Records that payloads carry

Two sample records: a quote, which is a symbol and a price, and an event with fields of many
types. Each has a JSON tree and a compact binary form.
-/

namespace SocketStrategies

/-- A symbol and its price. -/
structure Quote where
  symbol : String
  price : UInt32
  deriving DecidableEq

namespace Quote

open Json (Tree)

def toTree (q : Quote) : Tree :=
  .object [(some "symbol", .text (some q.symbol)), (some "price", .number (.ofInt q.price.toNat))]

def ofTree? (t : Tree) : Option Quote := do
  match ← t.record? ["symbol", "price"] with
  | [some symbol, some price] => do
      let symbol ← symbol.text?
      let price ← price.integer? 0 0xFFFFFFFF
      some ⟨symbol, UInt32.ofNat price.toNat⟩
  | _ => none

def write (q : Quote) : Bytes := Binary.writeText q.symbol ++ Binary.writeUInt32 q.price

def read : Binary.Reader Quote := fun b => do
  let (symbol, b) ← Binary.readText b
  let (price, b) ← Binary.readUInt32 b
  some (⟨symbol, price⟩, b)

end Quote

/-- What an event is about. -/
inductive EventKind where
  /-- Nothing but that it is there. -/
  | ping
  | data (b : Bytes)
  | point (x y : Int32)
  deriving DecidableEq

namespace EventKind

open Json (Tree)

/-- The JSON tree: the name alone if there is nothing more, else an object with one field. -/
def toTree : EventKind → Tree
  | .ping => .text (some "Ping")
  | .data b => .object [(some "Data", .array (b.map fun x => .number (.ofInt x.toNat)))]
  | .point x y =>
      .object [(some "Point",
        .object [(some "x", .number (.ofInt x.toInt)), (some "y", .number (.ofInt y.toInt))])]

def byte? (t : Tree) : Option UInt8 := (t.integer? 0 255).map fun i => UInt8.ofNat i.toNat

def coordinate? (t : Tree) : Option Int32 := (t.integer? (-0x80000000) 0x7FFFFFFF).map Int32.ofInt

def ofTree? : Tree → Option EventKind
  | .text (some "Ping") => some .ping
  | .object [(some "Ping", .null)] => some .ping
  | .object [(some "Data", t)] => (t.list? byte?).map .data
  | .object [(some "Point", t)] => do
      match ← t.record? ["x", "y"] with
      | [some x, some y] => do some (.point (← coordinate? x) (← coordinate? y))
      | _ => none
  | _ => none

def write : EventKind → Bytes
  | .ping => Binary.writeUInt32 0
  | .data b => Binary.writeUInt32 1 ++ Binary.writeBytes b
  | .point x y => Binary.writeUInt32 2 ++ Binary.writeInt32 x ++ Binary.writeInt32 y

def read : Binary.Reader EventKind := fun b => do
  let (choice, b) ← Binary.readUInt32 b
  if choice = 0 then some (.ping, b)
  else if choice = 1 then do
    let (raw, b) ← Binary.readBytes b
    some (.data raw, b)
  else if choice = 2 then do
    let (x, b) ← Binary.readInt32 b
    let (y, b) ← Binary.readInt32 b
    some (.point x y, b)
  else none

end EventKind

structure Event where
  id : UInt64
  delta : Int64
  name : String
  tags : List String
  note : Option String
  flag : Bool
  kind : EventKind
  deriving DecidableEq

namespace Event

open Json (Tree)

def toTree (e : Event) : Tree :=
  .object [(some "id", .number (.ofInt e.id.toNat)),
    (some "delta", .number (.ofInt e.delta.toInt)),
    (some "name", .text (some e.name)),
    (some "tags", .array (e.tags.map fun s => .text (some s))),
    (some "note", match e.note with | none => .null | some s => .text (some s)),
    (some "flag", .bool e.flag), (some "kind", e.kind.toTree)]

/-- The event that a JSON tree describes. The remark may be left out. -/
def ofTree? (t : Tree) : Option Event := do
  match ← t.record? ["id", "delta", "name", "tags", "note", "flag", "kind"] with
  | [some id, some delta, some name, some tags, note, some flag, some kind] => do
      let id ← id.integer? 0 0xFFFFFFFFFFFFFFFF
      let delta ← delta.integer? (-0x8000000000000000) 0x7FFFFFFFFFFFFFFF
      let name ← name.text?
      let tags ← tags.list? Tree.text?
      let note ← (note.getD .null).nullable? Tree.text?
      let flag ← flag.bool?
      let kind ← EventKind.ofTree? kind
      some ⟨UInt64.ofNat id.toNat, Int64.ofInt delta, name, tags, note, flag, kind⟩
  | _ => none

def write (e : Event) : Bytes :=
  Binary.writeUInt64 e.id ++ Binary.writeInt64 e.delta ++ Binary.writeText e.name
    ++ Binary.writeList Binary.writeText e.tags ++ Binary.writeOptional Binary.writeText e.note
    ++ Binary.writeBool e.flag ++ e.kind.write

def read : Binary.Reader Event := fun b => do
  let (id, b) ← Binary.readUInt64 b
  let (delta, b) ← Binary.readInt64 b
  let (name, b) ← Binary.readText b
  let (tags, b) ← Binary.readList Binary.readText b
  let (note, b) ← Binary.readOptional Binary.readText b
  let (flag, b) ← Binary.readBool b
  let (kind, b) ← EventKind.read b
  some (⟨id, delta, name, tags, note, flag, kind⟩, b)

end Event

end SocketStrategies
