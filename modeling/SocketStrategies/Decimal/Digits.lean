import SocketStrategies.Bytes

/-!
# Decimal digits as bytes

`digits` writes a natural number in ASCII digits without leading zeros, and `ofDigits` reads
digits; `ofDigits_digits` is the round trip.
-/

namespace SocketStrategies.Decimal

def isDigit (b : UInt8) : Bool := 48 ≤ b && b ≤ 57

def digitValue (b : UInt8) : Nat := b.toNat - 48

def digit (n : Nat) : UInt8 := UInt8.ofNat (48 + n)

/-- The digits of a number, most significant first, and `0` for zero. -/
def digits (n : Nat) : Bytes :=
  if n < 10 then [digit n] else digits (n / 10) ++ [digit (n % 10)]

/-- The number that digits stand for, most significant first. -/
def ofDigits (b : Bytes) : Nat := b.foldl (fun n d => 10 * n + digitValue d) 0

theorem digitValue_digit {n : Nat} (h : n < 10) : digitValue (digit n) = n := by
  have : (48 + n) % 256 = 48 + n := Nat.mod_eq_of_lt (by omega)
  simp [digitValue, digit, UInt8.toNat_ofNat', this]

theorem isDigit_digit {n : Nat} (h : n < 10) : isDigit (digit n) = true := by
  have : ∀ m, m < 10 → isDigit (digit m) = true := by decide
  exact this n h

theorem ofDigits_append_digit (b : Bytes) (d : UInt8) :
    ofDigits (b ++ [d]) = 10 * ofDigits b + digitValue d := by
  simp [ofDigits]

/-- Digits read back as the number they were written for. -/
theorem ofDigits_digits (n : Nat) : ofDigits (digits n) = n := by
  rw [digits]
  split
  · rename_i h
    simp [ofDigits, digitValue_digit h]
  · rw [ofDigits_append_digit, ofDigits_digits (n / 10), digitValue_digit (by omega)]
    omega
termination_by n
decreasing_by omega

theorem isDigit_of_mem_digits {n : Nat} {b : UInt8} (h : b ∈ digits n) : isDigit b = true := by
  rw [digits] at h
  split at h
  · rename_i hn
    simp only [List.mem_singleton] at h
    exact h ▸ isDigit_digit hn
  · rcases List.mem_append.mp h with h | h
    · exact isDigit_of_mem_digits h
    · simp only [List.mem_singleton] at h
      exact h ▸ isDigit_digit (by omega)
termination_by n
decreasing_by omega

end SocketStrategies.Decimal
