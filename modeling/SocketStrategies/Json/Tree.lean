import SocketStrategies.Json.Numeral
import SocketStrategies.Text.Basic

/-!
# JSON texts as trees

A tree keeps what a JSON text says before anything is made of it: numbers as they are spelt, and
object fields in their order, repeated names included. A text in quotes whose bytes or escapes
form no Unicode text is kept as nothing, since a field that is skipped may hold one.

`write` prints a tree without blanks.
-/

namespace SocketStrategies.Json

inductive Tree where
  | null
  | bool (b : Bool)
  | number (n : Numeral)
  /-- A text, or nothing if it is none. -/
  | text (s : Option String)
  | array (items : List Tree)
  | object (fields : List (Option String × Tree))
  deriving Inhabited

def hexDigit (n : Nat) : UInt8 := if n < 10 then UInt8.ofNat (48 + n) else UInt8.ofNat (87 + n)

/-- A character inside quotes. Quotation marks, backslashes and control characters are escaped,
nothing else is. -/
def writeChar (c : Char) : Bytes :=
  if c == '"' then [92, 34]
  else if c == '\\' then [92, 92]
  else if c == '\x08' then [92, 98]
  else if c == '\x0c' then [92, 102]
  else if c == '\n' then [92, 110]
  else if c == '\r' then [92, 114]
  else if c == '\t' then [92, 116]
  else if c.toNat < 32 then
    [92, 117, 48, 48, hexDigit (c.toNat / 16), hexDigit (c.toNat % 16)]
  else Utf8.encode c.toString

/-- A text in quotes. -/
def writeText (s : String) : Bytes := 34 :: s.toList.flatMap writeChar ++ [34]

namespace Tree

mutual

/-- Writes a tree without blanks. -/
def write : Tree → Bytes
  | .null => [110, 117, 108, 108]
  | .bool true => [116, 114, 117, 101]
  | .bool false => [102, 97, 108, 115, 101]
  | .number n => n.write
  | .text s => writeText (s.getD "")
  | .array items => 91 :: writeItems items
  | .object fields => 123 :: writeFields fields

/-- Writes the items of a list and the bracket that closes it. -/
def writeItems : List Tree → Bytes
  | [] => [93]
  | [t] => t.write ++ [93]
  | t :: rest => t.write ++ 44 :: writeItems rest

/-- Writes named fields and the brace that closes them. -/
def writeFields : List (Option String × Tree) → Bytes
  | [] => [125]
  | [(name, t)] => writeText (name.getD "") ++ 58 :: t.write ++ [125]
  | (name, t) :: rest => writeText (name.getD "") ++ 58 :: t.write ++ 44 :: writeFields rest

end

mutual

/-- How many lists and objects stand inside one another at most. -/
def depth : Tree → Nat
  | .array items => depthItems items + 1
  | .object fields => depthFields fields + 1
  | _ => 0

def depthItems : List Tree → Nat
  | [] => 0
  | t :: rest => max t.depth (depthItems rest)

def depthFields : List (Option String × Tree) → Nat
  | [] => 0
  | (_, t) :: rest => max t.depth (depthFields rest)

end

/-! ## Typed parts of a tree -/

def text? : Tree → Option String
  | .text s => s
  | _ => none

/-- An integer that is spelt as one and lies in a range, both ends inside. -/
def integer? (least greatest : Int) : Tree → Option Int
  | .number n => do
      let i ← n.integer?
      if least ≤ i ∧ i ≤ greatest then some i else none
  | _ => none

def bool? : Tree → Option Bool
  | .bool b => some b
  | _ => none

def list? {α : Type} (item? : Tree → Option α) : Tree → Option (List α)
  | .array items => items.mapM item?
  | _ => none

/-- A value or null. -/
def nullable? {α : Type} (value? : Tree → Option α) : Tree → Option (Option α)
  | .null => some none
  | t => (value? t).map some

/-- The tree of the one field of a name; nothing inside if there is no such field, and no answer if
there are several. -/
def unique? (name : String) (fields : List (Option String × Tree)) : Option (Option Tree) :=
  match fields.filter fun f => f.1 == some name with
  | [] => some none
  | [f] => some (some f.2)
  | _ => none

/-- The values of a record, in the order of their names. An object gives them by name, each
at most once, with other fields skipped as long as their names are texts; a list gives
exactly all of them. -/
def record? (names : List String) : Tree → Option (List (Option Tree))
  | .array items => if items.length = names.length then some (items.map some) else none
  | .object fields =>
      if fields.all fun f => f.1.isSome then names.mapM fun n => unique? n fields else none
  | _ => none

end Tree

end SocketStrategies.Json
