import SocketStrategies.Decimal.Shortest

/-!
# Numbers in JSON

A numeral is a number as it is spelt. One without fraction and exponent is an integer, except for
`-0`. Where a real number is wanted, the first digits that fit into 64 bits are taken and scaled
by a power of ten.
-/

namespace SocketStrategies.Json

/-- A number as it is spelt. -/
structure Numeral where
  negative : Bool
  whole : Bytes
  /-- The digits after the point, none if there is no point. -/
  fraction : Bytes
  /-- The power of ten, if one is given. -/
  exponent : Option Int
  deriving DecidableEq, Repr

namespace Numeral

def ofInt (i : Int) : Numeral := ⟨i < 0, Decimal.digits i.natAbs, [], none⟩

/-- The integer that a numeral spells. -/
def integer? (n : Numeral) : Option Int :=
  if n.fraction.isEmpty && n.exponent.isNone then
    let m := Decimal.ofDigits n.whole
    if n.negative then (if m = 0 then none else some (-m)) else some m
  else none

/-- Writes a power of ten, always with its sign. -/
def writeExponent (e : Int) : Bytes :=
  101 :: (if e < 0 then 45 else 43) :: Decimal.digits e.natAbs

def write (n : Numeral) : Bytes :=
  (if n.negative then [45] else []) ++ n.whole
    ++ (if n.fraction.isEmpty then [] else 46 :: n.fraction)
    ++ n.exponent.elim [] writeExponent

/-- Reads one digit or more. -/
def readDigits (b : Bytes) : Option (Bytes × Bytes) :=
  match b.takeWhile Decimal.isDigit with
  | [] => none
  | ds => some (ds, b.dropWhile Decimal.isDigit)

/-- Reads the digits before the point: a zero stands alone. -/
def readWhole (b : Bytes) : Option (Bytes × Bytes) := do
  let (ds, rest) ← readDigits b
  match ds with
  | 48 :: _ :: _ => none
  | _ => some (ds, rest)

/-- Reads the digits after the point, if there is a point. -/
def readFraction (b : Bytes) : Option (Bytes × Bytes) :=
  match b with
  | 46 :: rest => readDigits rest
  | _ => some ([], b)

/-- Reads the power of ten, if there is one. -/
def readExponent (b : Bytes) : Option (Option Int × Bytes) :=
  match b with
  | c :: rest =>
      if c == 101 || c == 69 then do
        let (negative, rest) := match rest with
          | 45 :: r => (true, r)
          | 43 :: r => (false, r)
          | r => (false, r)
        let (ds, rest) ← readDigits rest
        let m := Decimal.ofDigits ds
        some (some (if negative then -m else m), rest)
      else some (none, b)
  | [] => some (none, b)

def read (b : Bytes) : Option (Numeral × Bytes) := do
  let (negative, b) := match b with
    | 45 :: r => (true, r)
    | _ => (false, b)
  let (whole, b) ← readWhole b
  let (fraction, b) ← readFraction b
  let (exponent, b) ← readExponent b
  some (⟨negative, whole, fraction, exponent⟩, b)

/-! ## Real numbers -/

/-- Takes digits onto a number as long as it fits into 64 bits, and counts those it took. -/
def accumulate : (soFar : Nat) → (taken : Nat) → Bytes → Nat × Nat
  | n, taken, [] => (n, taken)
  | n, taken, d :: ds =>
      let next := 10 * n + Decimal.digitValue d
      if next < UInt64.size then accumulate next (taken + 1) ds else (n, taken)

/-- Scales by a power of ten in steps that a double can hold; nothing if the result is too
large. -/
def scale (x : Float) (e : Int) : (fuel : Nat) → Option Float
  | 0 => some 0
  | fuel + 1 =>
      if e.natAbs ≤ 308 then
        if 0 ≤ e then
          let y := x * Float.ofScientific 1 false e.toNat
          if y.isInf then none else some y
        else some (x / Float.ofScientific 1 false e.natAbs)
      else if x == 0 then some 0
      else if 0 ≤ e then none
      else scale (x / Float.ofScientific 1 false 308) (e + 308) fuel

/-- The bits of the double nearest to what a numeral spells, nothing if it is too large. -/
def real? (n : Numeral) : Option UInt64 :=
  let (s, taken) := accumulate 0 0 n.whole
  let (s, places) := accumulate s 0 n.fraction
  let e := (n.whole.length - taken : Nat) - (places : Int) + n.exponent.getD 0
  (scale (UInt64.ofNat s).toFloat e 4).map fun x => (if n.negative then -x else x).toBits

/-- How a double is written: a point after the first digit and a power of ten from `10 ^ 16` on and
below `10 ^ -5`, else with at least one digit on each side of the point. -/
def ofReal (bits : UInt64) : Numeral :=
  let negative := bits >>> 63 != 0
  let b := Decimal.Binary.ofBits bits
  if b.mantissa = 0 then ⟨negative, [48], [48], none⟩
  else
    let (d, k) := b.shortest
    let ds := Decimal.digits d
    let point := ds.length + k
    let zeros (n : Int) : Bytes := List.replicate n.toNat 48
    if 0 ≤ k && point ≤ 16 then ⟨negative, ds ++ zeros k, [48], none⟩
    else if 0 < point && point ≤ 16 then
      ⟨negative, ds.take point.toNat, ds.drop point.toNat, none⟩
    else if -5 < point && point ≤ 0 then ⟨negative, [48], zeros (-point) ++ ds, none⟩
    else ⟨negative, ds.take 1, ds.drop 1, some (point - 1)⟩

end Numeral

end SocketStrategies.Json
