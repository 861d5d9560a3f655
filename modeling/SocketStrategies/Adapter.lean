/-!
# Adapters for asynchronous types

A registry says of each asynchronous type that it knows how values of the type come about: one,
several or none. Registering a type again replaces what was said of it.
-/

namespace SocketStrategies

/-- A type that a registry may know. -/
inductive AsyncType where
  | futureBytes
  | streamBytes
  | futureUnit
  | text
  | word
  deriving DecidableEq, Repr

/-- How values of a type come about. -/
structure AsyncDescriptor where
  type : AsyncType
  /-- Whether there may be several values. -/
  multiValue : Bool
  /-- Whether there is no value, only an end. -/
  noValue : Bool
  deriving DecidableEq, Repr

namespace AsyncDescriptor

def single (t : AsyncType) : AsyncDescriptor := ⟨t, false, false⟩

def multi (t : AsyncType) : AsyncDescriptor := ⟨t, true, false⟩

def none (t : AsyncType) : AsyncDescriptor := ⟨t, false, true⟩

end AsyncDescriptor

structure AdapterRegistry where
  adapters : List (AsyncType × AsyncDescriptor)
  deriving DecidableEq, Repr

namespace AdapterRegistry

def empty : AdapterRegistry := ⟨[]⟩

def register (r : AdapterRegistry) (t : AsyncType) (d : AsyncDescriptor) : AdapterRegistry :=
  ⟨(t, d) :: r.adapters.filter fun e => e.1 != t⟩

def adapter? (r : AdapterRegistry) (t : AsyncType) : Option AsyncDescriptor := r.adapters.lookup t

def hasAdapters (r : AdapterRegistry) : Bool := !r.adapters.isEmpty

/-- The registry that knows later byte strings, streams of them and later ends. -/
def standard : AdapterRegistry :=
  ((empty.register .futureBytes (.single .futureBytes)).register .streamBytes
    (.multi .streamBytes)).register .futureUnit (.none .futureUnit)

end AdapterRegistry

end SocketStrategies
