import SocketStrategies.Metadata.Composite
import SocketStrategies.Metadata.Routing

/-!
# Extracting named values from metadata

An extractor is a list of rules. Each rule takes the metadata of one format as a text or as bytes
under a name. Routing metadata needs no rule: its first tag is the value `route`. Composite
metadata is taken entry by entry, and a value extracted later replaces one of the same name.
-/

namespace SocketStrategies

inductive ValueKind where
  | text
  | bytes
  deriving DecidableEq, Repr

inductive MetadataValue where
  | text (s : String)
  | bytes (b : Bytes)
  deriving DecidableEq, Repr

/-- Extracted values by name. -/
abbrev MetadataValues := Dict String MetadataValue

/-- Takes metadata of one format under a name. -/
structure ExtractionRule where
  /-- The format, whose parameters do not matter. -/
  mediaType : MediaType
  name : String
  kind : ValueKind
  deriving DecidableEq

namespace ExtractionRule

/-- The value that the rule takes from metadata. -/
def value (r : ExtractionRule) (entry : Bytes) (m : MediaType) :
    Except MetadataError MetadataValue :=
  match r.kind with
  | .bytes => .ok (.bytes entry)
  | .text =>
      match Utf8.decode? entry with
      | some s => .ok (.text s)
      | none => .error (.invalidUtf8 m.render)

def inspect (r : ExtractionRule) : String :=
  Inspect.record "EntryExtractor"
    [("mime", r.mediaType.inspect), ("name", Inspect.text r.name),
      ("kind", match r.kind with | .text => "Text" | .bytes => "Bytes")]

end ExtractionRule

/-- The rules in the order in which they apply. -/
structure MetadataExtractor where
  rules : List ExtractionRule
  deriving DecidableEq

namespace MetadataExtractor

/-- The name of the value that routing metadata gives. -/
def routeKey : String := "route"

def empty : MetadataExtractor := ⟨[]⟩

def add (x : MetadataExtractor) (m : MediaType) (kind : ValueKind) (name : String) :
    MetadataExtractor := ⟨x.rules ++ [⟨m, name, kind⟩]⟩

/-- The extractor that is used unless another is chosen: plain text is the route. -/
def standard : MetadataExtractor := empty.add .textPlain .text routeKey

/-- Extracts from metadata of one format, on top of the values found so far. -/
def extractEntry (x : MetadataExtractor) (entry : Bytes) (m : MediaType) (found : MetadataValues) :
    Except MetadataError MetadataValues :=
  -- no rule is asked about routing metadata
  if m.sameFormat .routing then do
    let tags ← (Routing.decode entry).1
    match tags with
    | [] => .ok found
    | tag :: _ => .ok (found.insert routeKey (.text tag))
  else
    (x.rules.filter fun r => r.mediaType.sameFormat m).foldlM
      (fun found r => do .ok (found.insert r.name (← r.value entry m))) found

/-- Extracts from metadata, taking composite metadata apart. -/
def extract (x : MetadataExtractor) (metadata : Bytes) (m : MediaType) :
    Except MetadataError MetadataValues :=
  if m.sameFormat .compositeMetadata then do
    let entries ← Composite.decode metadata
    entries.foldlM (fun found e => x.extractEntry e.content e.mediaType found) .empty
  else x.extractEntry metadata m .empty

def inspect (x : MetadataExtractor) : String :=
  Inspect.record "DefaultMetadataExtractor"
    [("extractors", Inspect.list (x.rules.map ExtractionRule.inspect))]

end MetadataExtractor

end SocketStrategies
