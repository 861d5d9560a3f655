import SocketStrategies.Json.Tree

/-!
# Reading JSON

`read?` reads a whole byte string as one JSON value with blanks around it. Control characters
inside quotes, unknown escapes and misspelt numbers are refused; an unpaired surrogate or broken
UTF-8 inside quotes only makes that text nothing.

The readers of nested values count down from a bound on the number of calls, which `read?` takes
from the length of the input.
-/

namespace SocketStrategies.Json

/-- Whether a byte is blank between the parts of a JSON text. -/
def isBlank (b : UInt8) : Bool := b == 32 || b == 9 || b == 10 || b == 13

def skipBlanks (b : Bytes) : Bytes := b.dropWhile isBlank

/-! ## Texts -/

/-- A part of a text in quotes. -/
inductive TextPart where
  | byte (b : UInt8)
  /-- A UTF-16 code unit given by its number. -/
  | unit (n : Nat)
  deriving DecidableEq

def hexValue? (b : UInt8) : Option Nat :=
  if 48 ≤ b && b ≤ 57 then some (b.toNat - 48)
  else if 97 ≤ b && b ≤ 102 then some (b.toNat - 87)
  else if 65 ≤ b && b ≤ 70 then some (b.toNat - 55)
  else none

/-- The byte that a one-letter escape stands for. -/
def escaped? (b : UInt8) : Option UInt8 :=
  [(34, 34), (92, 92), (47, 47), (98, 8), (102, 12), (110, 10), (114, 13), (116, 9)].lookup b

/-- Reads the parts of a text to the closing quotation mark. -/
def readParts : Bytes → Option (List TextPart × Bytes)
  | [] => none
  | 34 :: rest => some ([], rest)
  | 92 :: 117 :: a :: b :: c :: d :: rest => do
      let high := 16 * (← hexValue? a) + (← hexValue? b)
      let n := 256 * high + 16 * (← hexValue? c) + (← hexValue? d)
      let (parts, rest) ← readParts rest
      some (.unit n :: parts, rest)
  | 92 :: e :: rest => do
      let b ← escaped? e
      let (parts, rest) ← readParts rest
      some (.byte b :: parts, rest)
  | b :: rest =>
      if b < 32 || b == 92 then none
      else do
        let (parts, rest) ← readParts rest
        some (.byte b :: parts, rest)

/-- The UTF-8 bytes of the parts, with each pair of surrogates joined; nothing if one stands
alone. -/
def joinParts : List TextPart → Option Bytes
  | [] => some []
  | .byte b :: rest => (joinParts rest).map (b :: ·)
  | .unit n :: rest =>
      if 0xD800 ≤ n && n < 0xDC00 then
        match rest with
        | .unit m :: rest =>
            if 0xDC00 ≤ m && m < 0xE000 then
              let c := Char.ofNat (0x10000 + (n - 0xD800) * 0x400 + (m - 0xDC00))
              (joinParts rest).map (Utf8.encode c.toString ++ ·)
            else none
        | _ => none
      else if 0xDC00 ≤ n && n < 0xE000 then none
      else (joinParts rest).map (Utf8.encode (Char.ofNat n).toString ++ ·)

/-- Reads a text after its opening quotation mark. -/
def readText (b : Bytes) : Option (Option String × Bytes) := do
  let (parts, rest) ← readParts b
  some ((joinParts parts).bind Utf8.decode?, rest)

/-! ## Values -/

mutual

/-- Reads a value from the front. -/
def readTree : (fuel : Nat) → Bytes → Option (Tree × Bytes)
  | 0, _ => none
  | fuel + 1, b =>
      match skipBlanks b with
      | 110 :: 117 :: 108 :: 108 :: rest => some (.null, rest)
      | 116 :: 114 :: 117 :: 101 :: rest => some (.bool true, rest)
      | 102 :: 97 :: 108 :: 115 :: 101 :: rest => some (.bool false, rest)
      | 34 :: rest => do
          let (s, rest) ← readText rest
          some (.text s, rest)
      | 91 :: rest =>
          match skipBlanks rest with
          | 93 :: rest => some (.array [], rest)
          | rest => do
              let (items, rest) ← readItems fuel rest
              some (.array items, rest)
      | 123 :: rest =>
          match skipBlanks rest with
          | 125 :: rest => some (.object [], rest)
          | rest => do
              let (fields, rest) ← readFields fuel rest
              some (.object fields, rest)
      | b => do
          let (n, rest) ← Numeral.read b
          some (.number n, rest)

/-- Reads one item or more to the closing bracket. -/
def readItems : (fuel : Nat) → Bytes → Option (List Tree × Bytes)
  | 0, _ => none
  | fuel + 1, b => do
      let (t, rest) ← readTree fuel b
      match skipBlanks rest with
      | 93 :: rest => some ([t], rest)
      | 44 :: rest => do
          let (items, rest) ← readItems fuel rest
          some (t :: items, rest)
      | _ => none

/-- Reads one field or more to the closing brace. -/
def readFields : (fuel : Nat) → Bytes → Option (List (Option String × Tree) × Bytes)
  | 0, _ => none
  | fuel + 1, b =>
      match skipBlanks b with
      | 34 :: rest => do
          let (name, rest) ← readText rest
          match skipBlanks rest with
          | 58 :: rest => do
              let (t, rest) ← readTree fuel rest
              match skipBlanks rest with
              | 125 :: rest => some ([(name, t)], rest)
              | 44 :: rest => do
                  let (fields, rest) ← readFields fuel rest
                  some ((name, t) :: fields, rest)
              | _ => none
          | _ => none
      | _ => none

end

/-- Reads a whole byte string as one value. -/
def read? (b : Bytes) : Option Tree := do
  let (t, rest) ← readTree (2 * b.length + 2) b
  if (skipBlanks rest).isEmpty then some t else none

end SocketStrategies.Json
