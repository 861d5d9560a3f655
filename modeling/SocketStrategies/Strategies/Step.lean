import SocketStrategies.Strategies.Builder

/-!
# Building strategies step by step

A step says what is done to a builder in words that name no shared object yet: running it makes the
objects it speaks of. A step that fails leaves no builder.
-/

namespace SocketStrategies

/-- A change of a list. -/
inductive ListEdit (α : Type) where
  /-- Puts an element before the one at a position. -/
  | insert (position : Nat) (x : α)
  | remove (position : Nat)
  | swap (i j : Nat)
  /-- Keeps a number of elements from the front. -/
  | truncate (length : Nat)
  | clear
  | reverse
  /-- Adds the element at a position once more at the end. -/
  | duplicate (position : Nat)
  deriving DecidableEq

namespace ListEdit

variable {α : Type}

/-- Exchanges the elements at two positions of a list. -/
def swapAt (l : List α) (i j : Nat) : List α :=
  match l[i]?, l[j]? with
  | some x, some y => (l.set i y).set j x
  | _, _ => l

/-- Makes the change. Positions outside the list change nothing. -/
def apply : ListEdit α → List α → List α
  | .insert i x, l => l.insertIdx i x
  | .remove i, l => l.eraseIdx i
  | .swap i j, l => swapAt l i j
  | .truncate n, l => l.take n
  | .clear, _ => []
  | .reverse, l => l.reverse
  | .duplicate i, l => l ++ l[i]?.toList

/-- The same change with its new element made shared. -/
def share (a : Arena) : ListEdit α → ListEdit (Shared α) × Arena
  | .insert i x =>
      let (r, a) := a.share x
      (.insert i r, a)
  | .remove i => (.remove i, a)
  | .swap i j => (.swap i j, a)
  | .truncate n => (.truncate n, a)
  | .clear => (.clear, a)
  | .reverse => (.reverse, a)
  | .duplicate i => (.duplicate i, a)

end ListEdit

namespace Strategies

/-- Where an adapter registry comes from. -/
inductive RegistryChoice where
  /-- The process-wide one. -/
  | shared
  | fresh (r : AdapterRegistry)
  | missing
  deriving DecidableEq

inductive Step where
  | encoder (e : Encoder)
  | decoder (d : Decoder)
  | encoders (edit : ListEdit Encoder)
  | decoders (edit : ListEdit Decoder)
  /-- Sets the matcher or takes it away. -/
  | routeMatcher (m : Option RouteMatcher)
  /-- Sets the extractor or takes it away. -/
  | metadataExtractor (x : Option MetadataExtractor)
  /-- Sets the factory or takes it away. -/
  | bufferFactory (k : Option FactoryKind)
  | adapterRegistry (r : RegistryChoice)
  | fail (message : String)
  deriving DecidableEq

/-- Makes an optional object shared. -/
def shareOptional {α : Type} (a : Arena) : Option α → Option (Shared α) × Arena
  | none => (none, a)
  | some v =>
      let (r, a) := a.share v
      (some r, a)

/-- The registry that is chosen. -/
def RegistryChoice.resolve (a : Arena) : RegistryChoice → Option (Shared AdapterRegistry) × Arena
  | .shared => (some AdapterRegistry.shared, a)
  | .fresh r => shareOptional a (some r)
  | .missing => (none, a)

def Step.run (b : Builder) (a : Arena) : Step → Except (Failure StrategiesError) Builder × Arena
  | .encoder e =>
      let (r, a) := a.share e
      (.ok (b.encoder r), a)
  | .decoder d =>
      let (r, a) := a.share d
      (.ok (b.decoder r), a)
  | .encoders edit =>
      let (edit, a) := edit.share a
      (.ok (b.editEncoders edit.apply), a)
  | .decoders edit =>
      let (edit, a) := edit.share a
      (.ok (b.editDecoders edit.apply), a)
  | .routeMatcher m =>
      let (m, a) := shareOptional a m
      (.ok { b with routeMatcher := m }, a)
  | .metadataExtractor x =>
      let (x, a) := shareOptional a x
      (.ok { b with metadataExtractor := x }, a)
  | .bufferFactory k =>
      let (k, a) := shareOptional a k
      (.ok { b with bufferFactory := k }, a)
  | .adapterRegistry r =>
      let (r, a) := r.resolve a
      ((b.setAdapterRegistry r).mapError .cause, a)
  | .fail message => (.error (.reported message), a)

/-- Runs steps one after the other up to the first that fails. -/
def Step.runAll (b : Builder) (a : Arena) :
    List Step → Except (Failure StrategiesError) Builder × Arena
  | [] => (.ok b, a)
  | s :: rest =>
      match s.run b a with
      | (.ok b, a) => runAll b a rest
      | (.error e, a) => (.error e, a)

end Strategies

end SocketStrategies
