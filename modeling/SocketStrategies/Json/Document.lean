import SocketStrategies.Dict
import SocketStrategies.Json.Reader

/-!
# JSON values

A document is what a tree means: numbers by value, texts that are texts, and the fields of an
object in the order of their names, each once. Of repeated fields the last one stays. Trees nested
too deep and numbers too large have no meaning.
-/

namespace SocketStrategies.Json

/-- The integers that are kept exactly: those of 64 bits, with or without a sign. -/
structure ExactInt where
  value : Int
  /-- It fits into 64 bits with a sign or without. -/
  range : -0x8000000000000000 ≤ value ∧ value < 0x10000000000000000
  deriving DecidableEq

def ExactInt.ofInt? (i : Int) : Option ExactInt :=
  if h : -0x8000000000000000 ≤ i ∧ i < 0x10000000000000000 then some ⟨i, h⟩ else none

inductive Document where
  | null
  | bool (b : Bool)
  | integer (i : ExactInt)
  /-- A real number as the bits of a double. -/
  | real (bits : UInt64)
  | text (s : String)
  | array (items : List Document)
  /-- Fields in ascending order of their names. -/
  | object (fields : List (String × Document))
  deriving Inhabited

namespace Document

/-- How deep lists and objects may stand inside one another. -/
def maxDepth : Nat := 127

/-- The value of a number. -/
def ofNumeral? (n : Numeral) : Option Document :=
  match n.integer?.bind ExactInt.ofInt? with
  | some i => some (.integer i)
  | none => n.real?.map .real

mutual

/-- The value of a tree of any depth. -/
def ofTree? : Tree → Option Document
  | .null => some .null
  | .bool b => some (.bool b)
  | .number n => ofNumeral? n
  | .text s => s.map .text
  | .array items => (ofItems? items).map .array
  | .object fields => (ofFields? [] fields).map .object

def ofItems? : List Tree → Option (List Document)
  | [] => some []
  | t :: rest => do
      let d ← ofTree? t
      let ds ← ofItems? rest
      some (d :: ds)

/-- The fields, put one after the other into those that stand before them. -/
def ofFields? (before : List (String × Document)) :
    List (Option String × Tree) → Option (List (String × Document))
  | [] => some before
  | (name, t) :: rest => do
      let n ← name
      let d ← ofTree? t
      ofFields? (Dict.insertEntry n d before) rest

end

mutual

/-- The tree of a value. -/
def toTree : Document → Tree
  | .null => .null
  | .bool b => .bool b
  | .integer i => .number (.ofInt i.value)
  | .real bits => .number (.ofReal bits)
  | .text s => .text (some s)
  | .array items => .array (toItems items)
  | .object fields => .object (toFields fields)

def toItems : List Document → List Tree
  | [] => []
  | d :: rest => d.toTree :: toItems rest

def toFields : List (String × Document) → List (Option String × Tree)
  | [] => []
  | (n, d) :: rest => (some n, d.toTree) :: toFields rest

end

/-- The value of a tree that is not too deep. -/
def read? (t : Tree) : Option Document := if t.depth ≤ maxDepth then ofTree? t else none

end Document

end SocketStrategies.Json
