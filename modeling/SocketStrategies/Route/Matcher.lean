import SocketStrategies.Dict
import SocketStrategies.Text.Basic
import SocketStrategies.Text.Inspect

/-!
# Routes and route patterns

A route is a text cut into segments at a separator; empty segments do not count. A pattern is
cut the same way, and each of its pieces covers segments of the route: `**` any number of
them, `{name}` one segment that it binds to the name, and any other piece one segment that it
matches as a glob.

A glob is compared with a byte string from the front: a star takes any number of bytes, a
question mark takes exactly one, and every other byte takes itself. Bytes, not characters, are
what is counted.

Where `**` leaves a choice, `Pattern.match?` takes the shortest cover first, so that an earlier
`**` covers as few segments as a match permits.
-/

namespace SocketStrategies

namespace Glob

/-- The byte that takes any number of bytes. -/
def star : UInt8 := 42

/-- The byte that takes exactly one byte. -/
def one : UInt8 := 63

/-- Whether a glob matches a byte string. At a star taking fewer bytes is tried first. -/
def accepts : (glob text : Bytes) → Bool
  | [], text => text.isEmpty
  | g :: glob, text =>
      if g == star then (List.range (text.length + 1)).any fun n => accepts glob (text.drop n)
      else
        match text with
        | [] => false
        | t :: text => (g == one || g == t) && accepts glob text

end Glob

/-- A destination with its segments. -/
structure Route where
  value : String
  /-- The non-empty pieces of the text. -/
  segments : List String
  deriving DecidableEq

/-- What one piece of a pattern covers. -/
inductive Piece where
  /-- Any number of segments. -/
  | rest
  /-- One segment, bound to a name. -/
  | capture (name : String)
  /-- One segment that the text matches as a glob. -/
  | glob (text : String)
  deriving DecidableEq

/-- The name between braces, if a piece is nothing else. -/
def Piece.captureName? (cs : List Char) : Option (List Char) :=
  match cs with
  | '{' :: inner =>
      match inner.reverse with
      | '}' :: name => some name.reverse
      | _ => none
  | _ => none

/-- The piece that a text stands for. -/
def Piece.ofText (s : String) : Piece :=
  if s == "**" then .rest
  else
    match captureName? s.toList with
    | some name => .capture (String.ofList name)
    | none => .glob s

/-- The segments bound by a match. -/
abbrev Captures := Dict String String

abbrev Pattern := List Piece

/-- Matches the pieces against the segments in order and returns the bindings with those made so
far; a later binding of a name replaces an earlier one. -/
def Pattern.match? : Pattern → List String → Captures → Option Captures
  | [], segments, bound => if segments.isEmpty then some bound else none
  | .rest :: pieces, segments, bound =>
      -- the shortest cover first
      (List.range (segments.length + 1)).findSome? fun n =>
        Pattern.match? pieces (segments.drop n) bound
  | .capture name :: pieces, segments, bound =>
      match segments with
      | [] => none
      | s :: left => Pattern.match? pieces left (bound.insert name s)
  | .glob g :: pieces, segments, bound =>
      match segments with
      | [] => none
      | s :: left =>
          if Glob.accepts (Utf8.encode g) (Utf8.encode s) then Pattern.match? pieces left bound
          else none

/-- Matches patterns against routes; both are cut at the separator. -/
structure RouteMatcher where
  separator : Char
  deriving DecidableEq

namespace RouteMatcher

def slash : RouteMatcher := ⟨'/'⟩

def dot : RouteMatcher := ⟨'.'⟩

/-- The non-empty pieces between separators. -/
def split (m : RouteMatcher) (s : String) : List String :=
  ((s.toList.splitOn m.separator).filter (!·.isEmpty)).map String.ofList

/-- Cuts a text into a route. -/
def parse (m : RouteMatcher) (s : String) : Route := ⟨s, m.split s⟩

/-- Cuts a text into the pieces of a pattern. -/
def pattern (m : RouteMatcher) (s : String) : Pattern := (m.split s).map Piece.ofText

/-- Whether a text has to be matched as a pattern. A text that holds none of the special
characters can be compared as it is. -/
def isPattern (s : String) : Bool :=
  let cs := s.toList
  '*' ∈ cs || '?' ∈ cs || ('{' ∈ cs && '}' ∈ cs)

/-- Joins two patterns with one separator between them; an empty one adds nothing. -/
def combine (m : RouteMatcher) (a b : String) : String :=
  if a.isEmpty then b
  else if b.isEmpty then a
  else
    String.ofList (Text.trimEnd (· == m.separator) a.toList ++ m.separator
      :: Text.trimStart (· == m.separator) b.toList)

/-- The segments that a pattern binds when it matches a route. -/
def match? (m : RouteMatcher) (pattern : String) (route : Route) : Option Captures :=
  (m.pattern pattern).match? route.segments .empty

def accepts (m : RouteMatcher) (pattern : String) (route : Route) : Bool :=
  (m.match? pattern route).isSome

def inspect (m : RouteMatcher) : String :=
  Inspect.record "PathRouteMatcher" [("separator", Inspect.char m.separator)]

end RouteMatcher

end SocketStrategies
