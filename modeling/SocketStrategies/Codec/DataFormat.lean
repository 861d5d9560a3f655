import SocketStrategies.Codec.Basic

/-!
# The data format that decoders stand for

Where no data format is chosen, the decoders decide. Plain text and the wildcard say nothing about
the data, so a decoder stands for the first other concrete format that it advertises. If the
decoders stand for one format, it is taken; for several, somebody has to choose; for none, the
first concrete format of all is taken, and plain text if there is none.
-/

namespace SocketStrategies.DataFormat

/-- The formats that say nothing about the data. -/
def defaults : List MediaType := [.textPlain, .any]

/-- Whether a format says nothing about the data. -/
def isDefault (m : MediaType) : Bool := defaults.any fun d => d.sameFormat m

/-- The format that a decoder stands for, without parameters. -/
def distinguishing? (d : Decoder) : Option MediaType :=
  (d.mediaTypes.find? fun m => m.isConcrete && !isDefault m).map MediaType.bare

/-- Adds a format unless an equivalent one is there. -/
def addNew (seen : List MediaType) (m : MediaType) : List MediaType :=
  if seen.any fun s => s.equivalent m then seen else seen ++ [m]

/-- The formats that decoders stand for, each once, in the order in which they come up. -/
def candidates (ds : List Decoder) : List MediaType :=
  (ds.filterMap distinguishing?).foldl addNew []

/-- Several formats to choose from. -/
structure Ambiguous where
  formats : List MediaType
  deriving DecidableEq

def Ambiguous.message (e : Ambiguous) : String :=
  "Cannot select default data mime type, decoders advertise " ++ MediaType.renderList e.formats
    ++ "; set the data mime type explicitly"

/-- The first concrete format that any decoder advertises. -/
def firstConcrete? (ds : List Decoder) : Option MediaType :=
  ((ds.flatMap Decoder.mediaTypes).find? MediaType.isConcrete).map MediaType.bare

/-- The data format that decoders stand for. -/
def resolve (ds : List Decoder) : Except Ambiguous MediaType :=
  match candidates ds with
  | [] => .ok ((firstConcrete? ds).getD .textPlain)
  | [m] => .ok m
  | several => .error ⟨several⟩

end SocketStrategies.DataFormat
