import SocketStrategies.Metadata.Composite

/-!
# Routing metadata

A list of tags. Each tag is one byte with its length and then its UTF-8 text, so a tag has at most
255 bytes and every list of such tags has exactly one written form.

A route travels in whatever format the metadata has: as one entry of composite metadata, as the
one tag of routing metadata, or else as plain text.
-/

namespace SocketStrategies

namespace Routing

/-- Writes tags up to the first that is too long. -/
def write : List String → Output MetadataError
  | [] => .done []
  | tag :: tags =>
      let n := Utf8.length tag
      if BoundedPart.maxLength .routeTag < n then .stop (.tooLong .routeTag n)
      else (Output.done (UInt8.ofNat n :: Utf8.encode tag)).andThen (write tags)

/-- The room that is asked for: each tag and its length byte. -/
def capacity (tags : List String) : Nat := (tags.map fun t => Utf8.length t + 1).foldr (· + ·) 0

/-- Writes tags through a buffer factory. -/
def encode (tags : List String) (f : Factory) : Except MetadataError Bytes × Factory :=
  f.emitFrozen (capacity tags) (write tags)

/-- Reads tags to the end of the bytes. The second part is what was not consumed: nothing after a
success, all from the incomplete tag on when one is cut off, and what follows a tag that is not
text. -/
def decode (b : Bytes) : Except MetadataError (List String) × Bytes :=
  match b with
  | [] => (.ok [], [])
  | n :: rest =>
      match _h : Bytes.take? n.toNat rest with
      | none => (.error (.truncated .routeTag), rest)
      | some (raw, rest') =>
          match Utf8.decode? raw with
          | none => (.error (.invalidUtf8 MediaType.routing.render), rest')
          | some tag =>
              let (tags, left) := decode rest'
              (tags.map (tag :: ·), left)
termination_by b.length
decreasing_by
  have h := congrArg List.length (Bytes.eq_append_of_take? _h).1
  rw [List.length_append] at h
  rw [List.length_cons]
  omega

end Routing

namespace RouteMetadata

/-- Writes a route as metadata of a format. Plain text needs no buffer. -/
def encode (route : String) (format : MediaType) (f : Factory) :
    Except MetadataError Bytes × Factory :=
  if format.sameFormat .compositeMetadata then
    match Routing.encode [route] f with
    | (.error e, f) => (.error e, f)
    | (.ok routing, f) => Composite.encode [⟨.routing, routing⟩] f
  else if format.sameFormat .routing then Routing.encode [route] f
  else (.ok (Utf8.encode route), f)

end RouteMetadata

end SocketStrategies
