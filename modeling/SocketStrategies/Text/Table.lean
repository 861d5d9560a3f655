/-!
# Sorted tables and sets of code points

A table keeps its entries in ascending order of their keys, which are numbers, and is searched by
halving. Large tables stand in the library as text: words with blanks between them, and numbers in
hexadecimal digits with capital letters.

A set of code points is kept as its ranges. In text a range is written as its two ends with a
hyphen between them, or as one number if it holds nothing else.
-/

namespace SocketStrategies.Text

/-- The number that hexadecimal digits spell. -/
def hexNumber (digits : List Char) : Nat :=
  digits.foldl (fun n d => 16 * n + (if d.isDigit then d.toNat - 48 else d.toNat - 55)) 0

def words (text : String) : List (List Char) :=
  (text.toList.splitOnP Char.isWhitespace).filter fun w => !w.isEmpty

/-- Entries in ascending order of their keys. -/
structure Table (α : Type) where
  /-- The keys, each with what belongs to it. -/
  entries : Array (Nat × α)

namespace Table

/-- How many entries have a key of at most `key`, if that number lies between `lo` and `hi`. -/
def countUpTo {α : Type} (t : Table α) (key : Nat) : (fuel lo hi : Nat) → Nat
  | 0, lo, _ => lo
  | fuel + 1, lo, hi =>
      if lo < hi then
        let middle := (lo + hi) / 2
        if t.entries[middle]?.any (·.1 ≤ key) then countUpTo t key fuel (middle + 1) hi
        else countUpTo t key fuel lo middle
      else lo

/-- The last entry whose key is at most `key`. -/
def floor? {α : Type} (t : Table α) (key : Nat) : Option (Nat × α) :=
  match t.countUpTo key t.entries.size 0 t.entries.size with
  | 0 => none
  | n + 1 => t.entries[n]?

def find? {α : Type} (t : Table α) (key : Nat) : Option α :=
  (t.floor? key).bind fun e => if e.1 = key then some e.2 else none

end Table

structure CodePoints where
  /-- The first code point of each range with the last one. -/
  ranges : Table Nat

namespace CodePoints

/-- The set that a text describes. -/
def ofText (text : String) : CodePoints :=
  let range (word : List Char) : Nat × Nat :=
    match word.splitOn '-' with
    | [first, last] => (hexNumber first, hexNumber last)
    | _ => (hexNumber word, hexNumber word)
  ⟨⟨((words text).map range).toArray⟩⟩

def contains (s : CodePoints) (c : Char) : Bool := (s.ranges.floor? c.toNat).any (c.toNat ≤ ·.2)

end CodePoints

end SocketStrategies.Text
