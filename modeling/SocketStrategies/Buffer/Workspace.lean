import SocketStrategies.Connection.Connector
import SocketStrategies.Dict

/-!
# Working with several buffers of one factory

A workspace holds a factory and the buffers in use, each under a name. A step works on one of them.
When a buffer is put under a name that is taken, the older one is given back afterwards.
-/

namespace SocketStrategies

structure Workspace where
  factory : Factory
  live : List (String × Buffer)

namespace Workspace

inductive Step where
  /-- Takes an empty buffer with room for some bytes from the factory. -/
  | allocate (capacity : Nat)
  /-- Makes a buffer outside the pool. -/
  | unpooled (b : Bytes)
  | write (b : Bytes)
  | truncate (length : Nat)
  | clear
  | drop
  /-- Turns the buffer into plain bytes. -/
  | freeze
  /-- Decodes a copy of the buffer's bytes as a received frame and gives the buffer up. -/
  | frame
  deriving DecidableEq

inductive Reply where
  /-- Whether there is as much room as was asked for. -/
  | roomy (enough : Bool)
  | frozen (b : Bytes)
  | frame (b : Bytes)
  | done
  deriving DecidableEq

def new (kind : FactoryKind) : Workspace := ⟨.new kind, []⟩

def buffer? (w : Workspace) (id : String) : Option Buffer := w.live.lookup id

/-- Forgets a name without giving its buffer back. -/
def forget (w : Workspace) (id : String) : Workspace :=
  { w with live := w.live.filter (·.1 != id) }

/-- Gives the buffer under a name back, if there is one. -/
def giveUp (w : Workspace) (id : String) : Workspace :=
  match w.buffer? id with
  | none => w
  | some b => { w.forget id with factory := w.factory.release b }

/-- Puts a buffer under a name and gives an older one back. -/
def place (w : Workspace) (id : String) (b : Buffer) : Workspace :=
  let w := w.giveUp id
  { w with live := (id, b) :: w.live }

def change (w : Workspace) (id : String) (f : Buffer → Buffer) : Workspace :=
  { w with live := w.live.map fun e => if e.1 == id then (e.1, f e.2) else e }

def step (w : Workspace) (id : String) : Step → Reply × Workspace
  | .allocate capacity =>
      let (b, f) := w.factory.allocate capacity
      (.roomy (capacity ≤ b.storage.capacity), { w with factory := f }.place id b)
  | .unpooled b => (.done, w.place id (.unpooled b))
  | .write b => (.done, w.change id (·.write b))
  | .truncate n => (.done, w.change id (·.truncate n))
  | .clear => (.done, w.change id Buffer.clear)
  | .drop => (.done, w.giveUp id)
  | .freeze => (.frozen (((w.buffer? id).map Buffer.freeze).getD []), w.forget id)
  | .frame =>
      let received := Storage.empty.write (((w.buffer? id).map Buffer.bytes).getD [])
      let payload := (FrameDecoding.select w.factory.kind.allocator).decode received
      (.frame payload.bytes, w.giveUp id)

end Workspace

end SocketStrategies
