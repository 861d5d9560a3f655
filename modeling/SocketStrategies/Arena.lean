import SocketStrategies.Adapter
import SocketStrategies.Buffer.Factory
import SocketStrategies.Dict

/-!
# Shared objects

Codecs, matchers, extractors, factories and registries are shared by reference. A reference is a
number and the object; two references are to the same object if their numbers agree. The arena
gives the numbers out and keeps the one thing that changes behind a reference: the buffers that
wait in a pooled factory. A factory that the arena has not heard of has none waiting.
-/

namespace SocketStrategies

structure Shared (α : Type) where
  id : Nat
  value : α
  deriving DecidableEq

namespace Shared

variable {α : Type}

def same (a b : Shared α) : Bool := a.id == b.id

/-- Another reference to the same object. -/
def copy (r : Shared α) : Shared α := ⟨r.id, r.value⟩

end Shared

/-- The one adapter registry of the whole process. -/
def AdapterRegistry.shared : Shared AdapterRegistry := ⟨0, .standard⟩

/-- Gives out references and keeps what changes behind them. -/
structure Arena where
  /-- The number of the next object. -/
  next : Nat
  /-- The buffers that wait in each pooled factory. -/
  waiting : Dict Nat (List Spare)

namespace Arena

variable {α β : Type}

/-- The arena at the start, in which only the process-wide registry exists. -/
def initial : Arena := ⟨1, .empty⟩

/-- Makes an object shared. -/
def share (a : Arena) (value : α) : Shared α × Arena :=
  (⟨a.next, value⟩, { a with next := a.next + 1 })

def shareAll (a : Arena) : List α → List (Shared α) × Arena
  | [] => ([], a)
  | v :: rest =>
      let (r, a) := a.share v
      let (rs, a) := a.shareAll rest
      (r :: rs, a)

/-- The factory behind a reference. -/
def factory (a : Arena) (r : Shared FactoryKind) : Factory :=
  ⟨r.value, (a.waiting.get? r.id).getD []⟩

/-- Works with the factory behind a reference. -/
def withFactory (a : Arena) (r : Shared FactoryKind) (op : Factory → β × Factory) : β × Arena :=
  let (b, f) := op (a.factory r)
  (b, { a with waiting := a.waiting.insert r.id f.idle })

end Arena

end SocketStrategies
