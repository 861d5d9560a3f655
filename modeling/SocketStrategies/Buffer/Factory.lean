import SocketStrategies.Bytes
import SocketStrategies.Text.Inspect

/-!
# Buffers and the factories that hand them out

A heap factory makes a new buffer every time. A pooled factory keeps buffers that were given back,
up to a bound, and hands out the one that has waited longest before it makes a new one. A buffer
that goes back is emptied first, and one that is frozen into plain bytes never goes back.

Whatever is encoded is written by `Factory.emit`, which takes what an encoder put out and why it
stopped, if it did: a failed buffer goes back with the bytes it holds by then.
-/

namespace SocketStrategies

/-- Who owns the memory behind a factory's buffers. -/
inductive Allocator where
  /-- Reference-counted memory that frames may share. -/
  | pooled
  /-- Memory that nothing else refers to. -/
  | heap
  deriving DecidableEq, Repr

inductive FactoryKind where
  /-- Keeps at most `maxIdle` buffers for reuse. -/
  | pooled (maxIdle : Nat)
  | heap
  deriving DecidableEq, Repr

/-- Memory of a buffer: the bytes in it and how many fit. -/
structure Storage where
  bytes : Bytes
  /-- The number of bytes there is room for. -/
  capacity : Nat
  deriving DecidableEq, Repr

namespace Storage

def empty : Storage := ⟨[], 0⟩

def reserve (s : Storage) (n : Nat) : Storage :=
  { s with capacity := max s.capacity (s.bytes.length + n) }

def write (s : Storage) (b : Bytes) : Storage := { s.reserve b.length with bytes := s.bytes ++ b }

def truncate (s : Storage) (n : Nat) : Storage := { s with bytes := s.bytes.take n }

/-- Drops all bytes and keeps the room. -/
def clear (s : Storage) : Storage := { s with bytes := [] }

end Storage

/-- Memory that waits for reuse: there is room in it and not a byte. -/
abbrev Spare := { s : Storage // s.bytes = [] }

/-- Makes memory ready for reuse. -/
def Storage.toSpare (s : Storage) : Spare := ⟨s.clear, rfl⟩

/-- A buffer in use. -/
structure Buffer where
  storage : Storage
  /-- Whether the memory came from a pool and goes back there. -/
  pooled : Bool
  deriving DecidableEq, Repr

namespace Buffer

/-- A buffer outside every pool. -/
def unpooled (b : Bytes) : Buffer := ⟨Storage.empty.write b, false⟩

def bytes (b : Buffer) : Bytes := b.storage.bytes

def write (b : Buffer) (bs : Bytes) : Buffer := { b with storage := b.storage.write bs }

def truncate (b : Buffer) (n : Nat) : Buffer := { b with storage := b.storage.truncate n }

def clear (b : Buffer) : Buffer := { b with storage := b.storage.clear }

/-- Turns the buffer into plain bytes. Its memory leaves the pool. -/
def freeze (b : Buffer) : Bytes := b.bytes

def inspect (b : Buffer) : String :=
  Inspect.record "DataBuffer"
    [("len", toString b.bytes.length), ("pooled", Inspect.bool b.pooled)]

end Buffer

/-- A factory with the buffers that wait in it, the longest waiting first. -/
structure Factory where
  kind : FactoryKind
  idle : List Spare
  deriving DecidableEq, Repr

/-- What an encoder put out, and why it stopped before its end if it did. -/
structure Output (ε : Type) where
  bytes : Bytes
  failure : Option ε
  deriving DecidableEq, Repr

namespace Output

variable {ε : Type}

/-- Output that is complete. -/
def done (b : Bytes) : Output ε := ⟨b, none⟩

/-- Output that stops at once. -/
def stop (e : ε) : Output ε := ⟨[], some e⟩

/-- Output that goes on with more, unless it stopped. -/
def andThen (o next : Output ε) : Output ε :=
  match o.failure with
  | none => ⟨o.bytes ++ next.bytes, next.failure⟩
  | some _ => o

/-- The bytes if the output is complete, else the reason. -/
def toExcept (o : Output ε) : Except ε Bytes :=
  match o.failure with
  | none => .ok o.bytes
  | some e => .error e

end Output

/-- The bound on waiting buffers that factories have unless told otherwise. -/
def FactoryKind.defaultMaxIdle : Nat := 64

/-- The kind that is used unless another is chosen. -/
def FactoryKind.standard : FactoryKind := .pooled defaultMaxIdle

/-- Who owns the memory of such a factory. -/
def FactoryKind.allocator : FactoryKind → Allocator
  | .pooled _ => .pooled
  | .heap => .heap

namespace Factory

def new (kind : FactoryKind) : Factory := ⟨kind, []⟩

/-- Hands out an empty buffer with room for `capacity` bytes. -/
def allocate (f : Factory) (capacity : Nat) : Buffer × Factory :=
  match f.kind, f.idle with
  | .heap, _ => (⟨Storage.empty.reserve capacity, false⟩, f)
  | .pooled _, [] => (⟨Storage.empty.reserve capacity, true⟩, f)
  | .pooled _, s :: waiting => (⟨s.val.reserve capacity, true⟩, { f with idle := waiting })

/-- Takes back a buffer that is no longer used. -/
def release (f : Factory) (b : Buffer) : Factory :=
  match f.kind with
  | .heap => f
  | .pooled maxIdle =>
      -- a buffer that never was in a pool does not come into one
      if b.pooled && f.idle.length < maxIdle then { f with idle := f.idle ++ [b.storage.toSpare] }
      else f

/-- Writes an encoder's output into a new buffer. If the output stopped, the buffer goes back. -/
def emit {ε : Type} (f : Factory) (capacity : Nat) (o : Output ε) : Except ε Buffer × Factory :=
  let (b, f) := f.allocate capacity
  let b := b.write o.bytes
  match o.failure with
  | none => (.ok b, f)
  | some e => (.error e, f.release b)

/-- Writes an encoder's output and freezes it. -/
def emitFrozen {ε : Type} (f : Factory) (capacity : Nat) (o : Output ε) :
    Except ε Bytes × Factory :=
  let (r, f) := f.emit capacity o
  (r.map Buffer.freeze, f)

/-- The number of buffers that wait, which a heap factory does not count. -/
def idleCount? (f : Factory) : Option Nat :=
  match f.kind with
  | .pooled _ => some f.idle.length
  | .heap => none

def inspect (f : Factory) : String :=
  match f.kind with
  | .pooled maxIdle =>
      Inspect.record "PooledBufferFactory"
        [("idle", toString f.idle.length), ("max_pooled", toString maxIdle)]
  | .heap => "HeapBufferFactory"

def allocateMany (f : Factory) (capacity : Nat) : (count : Nat) → List Buffer × Factory
  | 0 => ([], f)
  | n + 1 =>
      let (b, f) := f.allocate capacity
      let (bs, f) := f.allocateMany capacity n
      (b :: bs, f)

def releaseAll (f : Factory) (bs : List Buffer) : Factory := bs.foldl release f

end Factory

end SocketStrategies
