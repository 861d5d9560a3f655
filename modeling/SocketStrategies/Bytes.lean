/-!
# Byte strings

A byte string is a list of bytes. Numbers inside one stand in a fixed count of bytes, the most
significant first on the wire (`bigEndian`) or the least significant first in compact binary data
(`littleEndian`).
-/

namespace SocketStrategies

abbrev Bytes := List UInt8

namespace Bytes

/-- The low `width` bytes of a number, least significant first. -/
def littleEndian : (width : Nat) → Nat → Bytes
  | 0, _ => []
  | w + 1, n => UInt8.ofNat n :: littleEndian w (n / 256)

/-- The number that bytes stand for, least significant first. -/
def ofLittleEndian : Bytes → Nat
  | [] => 0
  | b :: rest => b.toNat + 256 * ofLittleEndian rest

/-- The low `width` bytes of a number, most significant first. -/
def bigEndian (width n : Nat) : Bytes := (littleEndian width n).reverse

/-- The number that bytes stand for, most significant first. -/
def ofBigEndian (b : Bytes) : Nat := ofLittleEndian b.reverse

@[simp] theorem length_littleEndian (width n : Nat) : (littleEndian width n).length = width := by
  induction width generalizing n with
  | zero => rfl
  | succ w ih => simp [littleEndian, ih]

@[simp] theorem length_bigEndian (width n : Nat) : (bigEndian width n).length = width := by
  simp [bigEndian]

/-- Splits off the first `n` bytes, if there are that many. -/
def take? (n : Nat) (b : Bytes) : Option (Bytes × Bytes) :=
  let front := b.take n
  if front.length = n then some (front, b.drop n) else none

theorem take?_append (a rest : Bytes) : take? a.length (a ++ rest) = some (a, rest) := by
  simp [take?]

theorem eq_append_of_take? {n : Nat} {b a rest : Bytes} (h : take? n b = some (a, rest)) :
    b = a ++ rest ∧ a.length = n := by
  simp only [take?] at h
  split at h
  · rename_i hn
    simp only [Option.some.injEq, Prod.mk.injEq] at h
    obtain ⟨rfl, rfl⟩ := h
    exact ⟨(List.take_append_drop n b).symm, hn⟩
  · simp at h

end Bytes

end SocketStrategies
