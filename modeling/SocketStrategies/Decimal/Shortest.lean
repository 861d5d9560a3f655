import SocketStrategies.Decimal.Digits

/-!
# The shortest decimal that reads back

A finite binary floating-point number stands for every real that rounds to it. Of the decimals
among those with the fewest digits, `shortest` takes the one nearest to the number. All arithmetic
is on natural numbers.
-/

namespace SocketStrategies.Decimal

/-- A positive binary number `mantissa · 2 ^ exponent`. `narrowBelow` says that the next smaller
number is only half as far away as the next larger one. -/
structure Binary where
  mantissa : Nat
  exponent : Int
  /-- Whether the step below is half the step above. -/
  narrowBelow : Bool
  deriving DecidableEq, Repr

namespace Binary

/-- The magnitude that the bits of a double stand for. -/
def ofBits (bits : UInt64) : Binary :=
  let exponent := (bits >>> 52 &&& 0x7FF).toNat
  let fraction := (bits &&& 0xFFFFFFFFFFFFF).toNat
  if exponent = 0 then ⟨fraction, -1074, false⟩
  else ⟨fraction + 0x10000000000000, exponent - 1075, fraction == 0 && 1 < exponent⟩

/-- The denominator of a quarter of the number's last bit. -/
def denominator (b : Binary) : Nat :=
  if b.exponent < 2 then Nat.pow 2 (2 - b.exponent).toNat else 1

/-- A quarter of the number's last bit, over the denominator. -/
def unit (b : Binary) : Nat := if b.exponent < 2 then 1 else Nat.pow 2 (b.exponent - 2).toNat

/-- The number over the denominator. -/
def numerator (b : Binary) : Nat := 4 * b.mantissa * b.unit

/-- The least real that rounds to the number, over the denominator. -/
def lower (b : Binary) : Nat := b.numerator - (if b.narrowBelow then 1 else 2) * b.unit

/-- The greatest real that rounds to the number, over the denominator. -/
def upper (b : Binary) : Nat := b.numerator + 2 * b.unit

/-- Whether `d · 10 ^ k` rounds to the number. -/
def holds (b : Binary) (d : Nat) (k : Int) : Bool :=
  let point := d * Nat.pow 10 k.toNat * b.denominator
  let scale := Nat.pow 10 (-k).toNat
  -- the reals at the ends round to the even one of two neighbours
  if b.mantissa % 2 == 0 then b.lower * scale ≤ point && point ≤ b.upper * scale
  else b.lower * scale < point && point < b.upper * scale

/-- The largest `d` with `d · 10 ^ k` at or below the number. -/
def below (b : Binary) (k : Int) : Nat :=
  b.numerator * Nat.pow 10 (-k).toNat / (b.denominator * Nat.pow 10 k.toNat)

/-- Whether `d · 10 ^ k`, at or below the number, is nearer to it than `(d + 1) · 10 ^ k`; if both
are as near, whether `d` is even. -/
def nearerBelow (b : Binary) (d : Nat) (k : Int) : Bool :=
  let twice := 2 * b.numerator * Nat.pow 10 (-k).toNat
  let middle := (2 * d + 1) * Nat.pow 10 k.toNat * b.denominator
  if twice == middle then d % 2 == 0 else twice < middle

/-- The number of digits before the point, counting down from `bound`; not positive for a
number below one. -/
def magnitude (b : Binary) : (fuel : Nat) → (bound : Int) → Int
  | 0, bound => bound
  | fuel + 1, bound => if b.below (bound - 1) = 0 then magnitude b fuel (bound - 1) else bound

/-- The nearest decimal on the grid of `10 ^ k` that rounds to the number. -/
def onGrid? (b : Binary) (k : Int) : Option Nat :=
  let d := b.below k
  match b.holds d k, b.holds (d + 1) k with
  | true, true => some (if b.nearerBelow d k then d else d + 1)
  | true, false => some d
  | false, true => some (d + 1)
  | false, false => none

/-- The digits and the power of ten, looking from `count` digits on. -/
def search (b : Binary) (size : Int) : (fuel : Nat) → (count : Nat) → Nat × Int
  | 0, count => (b.below (size - count), size - count)
  | fuel + 1, count =>
      match b.onGrid? (size - count) with
      | some d => (d, size - count)
      | none => search b size fuel (count + 1)

/-- Moves zeros at the end of the digits into the power of ten. -/
def normalize : (fuel : Nat) → Nat × Int → Nat × Int
  | 0, r => r
  | fuel + 1, (d, k) => if 0 < d && d % 10 == 0 then normalize fuel (d / 10, k + 1) else (d, k)

/-- The shortest decimal `d · 10 ^ k` that reads back as the number. -/
def shortest (b : Binary) : Nat × Int := normalize 17 (b.search (b.magnitude 700 310) 17 1)

end Binary

end SocketStrategies.Decimal
