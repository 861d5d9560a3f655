import SocketStrategies.Json.Reader
import SocketStrategies.MediaType.Basic

/-!
# Reading media types

A media type is written `type/subtype;name=value;…`. Blanks around each part between semicolons
and around a parameter's first equals sign do not count, parts that are blank altogether are
skipped, and double quotes around a value are dropped. A lone `*` stands for `*/*`. When a
parameter is given twice the later value stays. In a JSON text a media type stands as its written
form, in quotes.
-/

namespace SocketStrategies.MediaType

/-- What can be wrong with the text of a media type. -/
inductive Fault where
  /-- Nothing stands before the first semicolon. -/
  | missing
  | noSlash
  /-- Nothing stands on one side of the slash. -/
  | missingPart
  /-- There is a second slash. -/
  | secondSlash
  /-- The main type is a wildcard and the subtype is not. -/
  | wildcardType
  /-- A parameter has no equals sign. -/
  | noEquals
  deriving DecidableEq, Repr

def Fault.reason : Fault → String
  | .missing => "'mimeType' must not be empty"
  | .noSlash => "does not contain '/'"
  | .missingPart => "type and subtype must not be empty"
  | .secondSlash => "subtype contains '/'"
  | .wildcardType => "wildcard type is legal only in '*/*'"
  | .noEquals => "parameter does not contain '='"

/-- A text that is no media type, and why. -/
structure ParseError where
  input : String
  fault : Fault
  deriving DecidableEq, Repr

def ParseError.message (e : ParseError) : String :=
  "invalid mime type '" ++ e.input ++ "': " ++ e.fault.reason

/-- Cuts a text at the first occurrence of a character, which belongs to neither part. -/
def cut? (sep : Char) (cs : List Char) : Option (List Char × List Char) :=
  match cs.dropWhile (· != sep) with
  | [] => none
  | _ :: rest => some (cs.takeWhile (· != sep), rest)

/-- Reads the part before the first semicolon, with its blanks already trimmed. -/
def parseFormat (cs : List Char) : Except Fault MediaType :=
  if cs.isEmpty then .error .missing
  else
    let parts := if cs == ['*'] then some (['*'], ['*']) else cut? '/' cs
    match parts with
    | none => .error .noSlash
    | some (mainType, subtype) =>
        if mainType.isEmpty || subtype.isEmpty then .error .missingPart
        else if '/' ∈ subtype then .error .secondSlash
        else if mainType == ['*'] && subtype != ['*'] then .error .wildcardType
        else .ok (make (String.ofList mainType) (String.ofList subtype))

/-- Reads one parameter, with its blanks already trimmed, into a media type. -/
def parseParameter (m : MediaType) (cs : List Char) : Except Fault MediaType :=
  match cut? '=' cs with
  | none => .error .noEquals
  | some (name, value) =>
      .ok (m.withParameter (String.ofList (Text.trim name))
        (String.ofList (Text.trimBoth (· == '"') (Text.trim value))))

def parseChars (cs : List Char) : Except Fault MediaType :=
  match (cs.splitOn ';').map Text.trim with
  | [] => .error .missing
  | format :: parameters => do
      let m ← parseFormat format
      (parameters.filter (!·.isEmpty)).foldlM parseParameter m

def parse (s : String) : Except ParseError MediaType :=
  (parseChars s.toList).mapError (ParseError.mk s)

/-! ## Media types in JSON -/

def toJson (m : MediaType) : String := ((Utf8.decode? (Json.writeText m.render)).getD "")

/-- The media type that a JSON text gives. -/
def ofJson? (text : String) : Option MediaType := do
  let t ← Json.read? (Utf8.encode text)
  let s ← t.text?
  (parse s).toOption

end SocketStrategies.MediaType
