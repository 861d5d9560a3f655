import Mathlib.Algebra.Group.Nat.Defs
import SocketStrategies.Bytes

/-!
# Numbers and pieces of byte strings

A number that fits into a count of bytes is what these bytes stand for, in either order, and bytes
come back from the number they stand for. A piece can be split off the front unless there are too
few bytes, or up to a byte that ends it.
-/

namespace SocketStrategies.Bytes

theorem ofLittleEndian_littleEndian {width n : Nat} (h : n < 256 ^ width) :
    ofLittleEndian (littleEndian width n) = n := by
  induction width generalizing n with
  | zero =>
      simp only [Nat.pow_zero, Nat.lt_one_iff] at h
      simp [littleEndian, ofLittleEndian, h]
  | succ w ih =>
      have hq : n / 256 < 256 ^ w := by
        rw [Nat.pow_succ] at h
        exact Nat.div_lt_of_lt_mul (by omega)
      simp only [littleEndian, ofLittleEndian, ih hq, UInt8.toNat_ofNat']
      omega

theorem ofLittleEndian_lt (b : Bytes) : ofLittleEndian b < 256 ^ b.length := by
  induction b with
  | nil => exact Nat.one_pos
  | cons x b ih =>
      have hx := x.toNat_lt
      rw [ofLittleEndian, List.length_cons, Nat.pow_succ]
      omega

theorem littleEndian_ofLittleEndian (b : Bytes) :
    littleEndian b.length (ofLittleEndian b) = b := by
  induction b with
  | nil => rfl
  | cons x b ih =>
      have hx := x.toNat_lt
      have hlow : UInt8.ofNat (x.toNat + 256 * ofLittleEndian b) = x := by
        apply UInt8.toNat_inj.mp
        rw [UInt8.toNat_ofNat']
        omega
      have hhigh : (x.toNat + 256 * ofLittleEndian b) / 256 = ofLittleEndian b := by omega
      rw [List.length_cons, ofLittleEndian, littleEndian, hlow, hhigh, ih]

theorem ofBigEndian_lt (b : Bytes) : ofBigEndian b < 256 ^ b.length := by
  have h := ofLittleEndian_lt b.reverse
  rw [List.length_reverse] at h
  exact h

theorem bigEndian_ofBigEndian (b : Bytes) : bigEndian b.length (ofBigEndian b) = b := by
  have h := littleEndian_ofLittleEndian b.reverse
  rw [List.length_reverse] at h
  rw [bigEndian, ofBigEndian, h, List.reverse_reverse]

theorem ofBigEndian_bigEndian {width n : Nat} (h : n < 256 ^ width) :
    ofBigEndian (bigEndian width n) = n := by
  simp [ofBigEndian, bigEndian, ofLittleEndian_littleEndian h]

/-! ## Splitting off the front -/

theorem take?_eq (n : Nat) (b : Bytes) :
    take? n b = if n ≤ b.length then some (b.take n, b.drop n) else none := by
  have hlen : (b.take n).length = n ↔ n ≤ b.length := by
    rw [List.length_take]
    omega
  unfold take?
  by_cases hn : n ≤ b.length
  · rw [if_pos hn, if_pos (hlen.mpr hn)]
  · rw [if_neg hn, if_neg (mt hlen.mp hn)]

theorem take?_of_lt {n : Nat} {b : Bytes} (h : b.length < n) : take? n b = none := by
  rw [take?_eq, if_neg (Nat.not_le.mpr h)]

/-- A byte that stands in neither of two pieces ends both at the same place. -/
theorem eq_of_append_cons {stop : UInt8} {a b x y : Bytes} (ha : stop ∉ a) (hb : stop ∉ b)
    (h : a ++ stop :: x = b ++ stop :: y) : a = b ∧ x = y := by
  induction a generalizing b with
  | nil =>
      cases b with
      | nil => exact ⟨rfl, (List.cons.inj h).2⟩
      | cons c b =>
          rw [(List.cons.inj h).1] at hb
          exact absurd List.mem_cons_self hb
  | cons c a ih =>
      cases b with
      | nil =>
          rw [(List.cons.inj h).1] at ha
          exact absurd List.mem_cons_self ha
      | cons d b =>
          obtain ⟨rfl, htail⟩ := List.cons.inj h
          obtain ⟨rfl, hrest⟩ :=
            ih (mt (List.mem_cons_of_mem c) ha) (mt (List.mem_cons_of_mem c) hb) htail
          exact ⟨rfl, hrest⟩

end SocketStrategies.Bytes
