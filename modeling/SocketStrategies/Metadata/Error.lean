import SocketStrategies.MediaType.Parser

/-!
# What can go wrong with metadata
-/

namespace SocketStrategies

inductive MetadataPart where
  | mediaType
  /-- The three bytes that give an entry's length. -/
  | entryLength
  | entryContent
  | routeTag
  deriving DecidableEq, Repr

def MetadataPart.name : MetadataPart → String
  | .mediaType => "mime type"
  | .entryLength => "entry length"
  | .entryContent => "entry content"
  | .routeTag => "route tag"

/-- A part of metadata whose length is bounded. -/
inductive BoundedPart where
  /-- A route tag, whose length is one byte. -/
  | routeTag
  /-- The text of a media type, whose length less one is seven bits. -/
  | mediaType
  /-- The content of an entry, whose length is three bytes. -/
  | entry
  deriving DecidableEq, Repr

namespace BoundedPart

def name : BoundedPart → String
  | .routeTag => "route tag"
  | .mediaType => "mime type"
  | .entry => "metadata entry"

/-- The largest length in bytes. -/
def maxLength : BoundedPart → Nat
  | .routeTag => 255
  | .mediaType => 128
  | .entry => 0xFFFFFF

end BoundedPart

inductive MetadataError where
  /-- The bytes end inside a part. -/
  | truncated (part : MetadataPart)
  /-- A text is not UTF-8; `subject` names it. -/
  | invalidUtf8 (subject : String)
  /-- The media type of an entry cannot be read. -/
  | invalidEntryType (cause : MediaType.ParseError)
  /-- A part is longer than its length can say. -/
  | tooLong (part : BoundedPart) (length : Nat)
  deriving DecidableEq, Repr

def MetadataError.message : MetadataError → String
  | .truncated part => "metadata truncated while reading " ++ part.name
  | .invalidUtf8 subject => "metadata entry for " ++ subject ++ " is not valid utf-8"
  | .invalidEntryType _ => "invalid mime type in composite metadata"
  | .tooLong part length =>
      part.name ++ " too long: " ++ toString length ++ ", max: " ++ toString part.maxLength

end SocketStrategies
