import SocketStrategies.Arena
import SocketStrategies.Codec.DataFormat
import SocketStrategies.Connection.Connector
import SocketStrategies.Metadata.Extractor
import SocketStrategies.Route.Matcher

/-!
# Strategies and how they are put together

The strategies of a connection are its codecs, its route matcher, its metadata extractor, its
buffer factory and its adapter registry. A builder collects them; what was not set is made anew
when the strategies are built. A builder that starts from existing strategies takes over all but
the matcher and the extractor.
-/

namespace SocketStrategies

/-- Everything that connections share. -/
structure Strategies where
  /-- The encoders in the order in which they are asked. -/
  encoders : List (Shared Encoder)
  /-- The decoders in the order in which they are asked. -/
  decoders : List (Shared Decoder)
  routeMatcher : Shared RouteMatcher
  metadataExtractor : Shared MetadataExtractor
  bufferFactory : Shared FactoryKind
  adapterRegistry : Shared AdapterRegistry
  deriving DecidableEq

inductive StrategiesError where
  /-- The adapter registry was taken away. -/
  | registryRequired
  deriving DecidableEq, Repr

def StrategiesError.message : StrategiesError → String
  | .registryRequired => "invalid argument: reactive adapter registry is required"

namespace Strategies

structure Builder where
  encoders : List (Shared Encoder)
  decoders : List (Shared Decoder)
  routeMatcher : Option (Shared RouteMatcher)
  metadataExtractor : Option (Shared MetadataExtractor)
  bufferFactory : Option (Shared FactoryKind)
  /-- The registry, which is always there. -/
  adapterRegistry : Shared AdapterRegistry
  deriving DecidableEq

namespace Builder

def empty : Builder := ⟨[], [], none, none, none, AdapterRegistry.shared⟩

/-- The decoders of a new builder: text in any format, then bytes in each container. -/
def defaultDecoders : List Decoder := [.text .all, .raw .shared, .raw .owned, .raw .growable]

/-- The encoders of a new builder, in the order of the decoders. -/
def defaultEncoders : List Encoder := [.text .all, .raw .shared, .raw .owned, .raw .growable]

/-- A builder with new default codecs. -/
def new (a : Arena) : Builder × Arena :=
  let (ds, a) := a.shareAll defaultDecoders
  let (es, a) := a.shareAll defaultEncoders
  ({ empty with encoders := es, decoders := ds }, a)

/-- A builder that starts from existing strategies, matcher and extractor aside. -/
def fromExisting (s : Strategies) : Builder :=
  ⟨s.encoders, s.decoders, none, none, some s.bufferFactory, s.adapterRegistry⟩

def encoder (b : Builder) (e : Shared Encoder) : Builder :=
  { b with encoders := b.encoders ++ [e] }

def decoder (b : Builder) (d : Shared Decoder) : Builder :=
  { b with decoders := b.decoders ++ [d] }

def editEncoders (b : Builder) (f : List (Shared Encoder) → List (Shared Encoder)) : Builder :=
  { b with encoders := f b.encoders }

def editDecoders (b : Builder) (f : List (Shared Decoder) → List (Shared Decoder)) : Builder :=
  { b with decoders := f b.decoders }

/-- Sets the registry, which must be there. -/
def setAdapterRegistry (b : Builder) :
    Option (Shared AdapterRegistry) → Except StrategiesError Builder
  | some r => .ok { b with adapterRegistry := r }
  | none => .error .registryRequired

/-- What is set, or else something new. -/
def orNew {α : Type} (a : Arena) (set : Option (Shared α)) (standard : α) : Shared α × Arena :=
  match set with
  | some r => (r, a)
  | none => a.share standard

def build (b : Builder) (a : Arena) : Strategies × Arena :=
  let (matcher, a) := orNew a b.routeMatcher .dot
  let (extractor, a) := orNew a b.metadataExtractor .standard
  let (factory, a) := orNew a b.bufferFactory .standard
  (⟨b.encoders, b.decoders, matcher, extractor, factory, b.adapterRegistry⟩, a)

end Builder

/-- Strategies with the default codecs and nothing else set. -/
def default (a : Arena) : Strategies × Arena :=
  let (b, a) := Builder.new a
  b.build a

def mutate (s : Strategies) : Builder := .fromExisting s

def encoderNames (s : Strategies) : List String := s.encoders.map fun e => e.value.name

def decoderNames (s : Strategies) : List String := s.decoders.map fun d => d.value.name

def allocator (s : Strategies) : Allocator := s.bufferFactory.value.allocator

def frameDecoding (s : Strategies) : FrameDecoding := .select s.allocator

/-- The data format that the decoders stand for. -/
def dataFormat (s : Strategies) : Except DataFormat.Ambiguous MediaType :=
  DataFormat.resolve (s.decoders.map (·.value))

/-- The inspection text. The number of waiting buffers is that of the moment. -/
def inspect (s : Strategies) (a : Arena) : String :=
  Inspect.record "Strategies"
    [("encoders", Inspect.list (s.encoderNames.map Inspect.text)),
      ("decoders", Inspect.list (s.decoderNames.map Inspect.text)),
      ("route_matcher", s.routeMatcher.value.inspect),
      ("metadata_extractor", s.metadataExtractor.value.inspect),
      ("buffer_factory", (a.factory s.bufferFactory).inspect)]

end Strategies

end SocketStrategies
