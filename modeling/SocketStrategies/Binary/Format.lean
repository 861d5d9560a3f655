import SocketStrategies.Text.Basic

/-!
# Compact binary data

Numbers stand in their full width, least significant byte first. A sequence is its length in eight
bytes and then its items; text and byte strings are sequences of bytes. A value that may be
missing is preceded by one byte, zero or one, and a choice by its number in four bytes.

A reader takes a value off the front of the input. It does not mind what follows, and it needs all
the bytes of the value.
-/

namespace SocketStrategies.Binary

/-- Takes a value off the front of the input. -/
abbrev Reader (α : Type) := Bytes → Option (α × Bytes)

/-- Reads a number of a width in bytes. -/
def readNat (width : Nat) : Reader Nat := fun b => do
  let (raw, rest) ← Bytes.take? width b
  some (Bytes.ofLittleEndian raw, rest)

def writeLength (n : Nat) : Bytes := Bytes.littleEndian 8 n

/-- Writes a byte string after its length. -/
def writeBytes (b : Bytes) : Bytes := writeLength b.length ++ b

def readBytes : Reader Bytes := fun b => do
  let (n, rest) ← readNat 8 b
  Bytes.take? n rest

def writeText (s : String) : Bytes := writeBytes (Utf8.encode s)

def readText : Reader String := fun b => do
  let (raw, rest) ← readBytes b
  let s ← Utf8.decode? raw
  some (s, rest)

def writeBool (b : Bool) : Bytes := [if b then 1 else 0]

def readBool : Reader Bool
  | 0 :: rest => some (false, rest)
  | 1 :: rest => some (true, rest)
  | _ => none

/-- Writes items after their number. -/
def writeList {α : Type} (write : α → Bytes) (items : List α) : Bytes :=
  writeLength items.length ++ items.flatMap write

/-- Reads a number of items. -/
def readMany {α : Type} (read : Reader α) : (count : Nat) → Reader (List α)
  | 0, b => some ([], b)
  | n + 1, b => do
      let (a, rest) ← read b
      let (items, rest) ← readMany read n rest
      some (a :: items, rest)

def readList {α : Type} (read : Reader α) : Reader (List α) := fun b => do
  let (n, rest) ← readNat 8 b
  readMany read n rest

/-- Writes a value that may be missing. -/
def writeOptional {α : Type} (write : α → Bytes) : Option α → Bytes
  | none => [0]
  | some a => 1 :: write a

def readOptional {α : Type} (read : Reader α) : Reader (Option α)
  | 0 :: rest => some (none, rest)
  | 1 :: rest => do
      let (a, rest) ← read rest
      some (some a, rest)
  | _ => none

def writeUInt32 (n : UInt32) : Bytes := Bytes.littleEndian 4 n.toNat

def readUInt32 : Reader UInt32 := fun b => (readNat 4 b).map fun r => (UInt32.ofNat r.1, r.2)

def writeUInt64 (n : UInt64) : Bytes := Bytes.littleEndian 8 n.toNat

def readUInt64 : Reader UInt64 := fun b => (readNat 8 b).map fun r => (UInt64.ofNat r.1, r.2)

def writeInt32 (n : Int32) : Bytes := writeUInt32 n.toUInt32

def readInt32 : Reader Int32 := fun b => (readUInt32 b).map fun r => (r.1.toInt32, r.2)

def writeInt64 (n : Int64) : Bytes := writeUInt64 n.toUInt64

def readInt64 : Reader Int64 := fun b => (readUInt64 b).map fun r => (r.1.toInt64, r.2)

end SocketStrategies.Binary
