import SocketStrategies.Json.Reader
import SocketStrategies.Proofs.Json.Tree

/-!
# What may stand around a value

Blanks in front of a value are skipped by the reader of values, and blanks behind it by the reader
of a whole input. Anything else behind it is left over, since a reader takes no more than the
value it was written for. Only a number can be gone on with: by a digit, by a point, or by the
letter of an exponent. Even so one single byte more is refused, unless it is a digit behind a
number other than zero.
-/

namespace SocketStrategies.Json

open Numeral (EndsAt endsAt_nil endsAt_cons)

/-- Whether all bytes are blank. -/
def Blanks (b : Bytes) : Prop := ∀ c ∈ b, isBlank c = true

instance (b : Bytes) : Decidable (Blanks b) := List.decidableBAll (fun c => isBlank c = true) b

theorem skipBlanks_append {front : Bytes} (h : Blanks front) (b : Bytes) :
    skipBlanks (front ++ b) = skipBlanks b :=
  List.dropWhile_append_of_pos h

theorem skipBlanks_of_blanks {b : Bytes} (h : Blanks b) : skipBlanks b = [] := by
  have hb := skipBlanks_append h []
  rw [List.append_nil] at hb
  exact hb

theorem readTree_append_blanks {front : Bytes} (h : Blanks front) (fuel : Nat) (b : Bytes) :
    readTree fuel (front ++ b) = readTree fuel b := by
  cases fuel with
  | zero => rw [readTree, readTree]
  | succ fuel => simp only [readTree, skipBlanks_append h]

/-- A blank ends a number. -/
theorem endsAt_of_isBlank {c : UInt8} (h : isBlank c = true) (b : Bytes) : EndsAt (c :: b) := by
  simp only [isBlank, Bool.or_eq_true, beq_iff_eq] at h
  rcases h with ((rfl | rfl) | rfl) | rfl
  all_goals exact endsAt_cons (by decide) b

theorem endsAt_append_of_blanks {back : Bytes} (h : Blanks back) {rest : Bytes}
    (hrest : back = [] → EndsAt rest) : EndsAt (back ++ rest) := by
  cases back with
  | nil => exact hrest rfl
  | cons c back => exact endsAt_of_isBlank (h c List.mem_cons_self) (back ++ rest)

variable {t : Tree} {front back : Bytes}

/-- A tree with blanks in front is read if nothing but blanks stands behind it. -/
theorem read?_append_write (ht : t.Plain) (hfront : Blanks front) {rest : Bytes}
    (hrest : t.EndsBefore rest) :
    read? (front ++ (t.write ++ rest)) = if (skipBlanks rest).isEmpty then some t else none := by
  have hlen : t.write.length ≤ 2 * (front ++ (t.write ++ rest)).length + 2 := by
    rw [List.length_append, List.length_append]
    omega
  rw [read?, readTree_append_blanks hfront, (readsBack _).tree ht hlen hrest]
  rfl

/-- **A tree is read with any blanks around it.** -/
theorem read?_within_blanks (ht : t.Plain) (hfront : Blanks front) (hback : Blanks back) :
    read? (front ++ (t.write ++ back)) = some t := by
  have hend : EndsAt back := by
    rw [← List.append_nil back]
    exact endsAt_append_of_blanks hback fun _ => endsAt_nil
  rw [read?_append_write ht hfront (.of_endsAt hend t), skipBlanks_of_blanks hback]
  rfl

/-- **What is not blank behind a tree is refused**, if it does not go on with it. -/
theorem read?_of_more (ht : t.Plain) (hfront : Blanks front) (hback : Blanks back) {c : UInt8}
    (hc : isBlank c = false) {rest : Bytes} (hend : t.EndsBefore (back ++ c :: rest)) :
    read? (front ++ (t.write ++ (back ++ c :: rest))) = none := by
  rw [read?_append_write ht hfront hend, skipBlanks_append hback, skipBlanks_cons hc]
  rfl

/-- **One byte behind a tree is refused**, unless it is a blank or a digit that goes on with a
number. -/
theorem read?_of_one_more (ht : t.Plain) (hfront : Blanks front) {c : UInt8}
    (hc : isBlank c = false)
    (hdigit : ∀ i, t = .number (.ofInt i) → i = 0 ∨ Decimal.isDigit c = false) :
    read? (front ++ (t.write ++ [c])) = none := by
  have hnone : Blanks [] := by decide
  by_cases hnumber : ∃ i, t = .number (.ofInt i)
  · obtain ⟨i, rfl⟩ := hnumber
    by_cases hcut : c ∈ [46, 101, 69] ∨ i = 0 ∧ Decimal.isDigit c = true
    · rw [read?, readTree_append_blanks hfront, Tree.write, readTree_ofInt,
        Numeral.read_write_ofInt_concat hcut]
      rfl
    · obtain ⟨hletter, hzero⟩ := not_or.mp hcut
      simp only [List.mem_cons, List.not_mem_nil, or_false, not_or] at hletter
      have hno : Decimal.isDigit c = false := by
        rcases hdigit i rfl with hi | hno
        · exact Bool.eq_false_iff.mpr fun h => hzero ⟨hi, h⟩
        · exact hno
      exact read?_of_more ht hfront hnone hc (.of_endsAt (endsAt_cons ⟨hno, hletter⟩ []) _)
  · -- only a number can be gone on with
    refine read?_of_more ht hfront hnone hc fun n hn => ?_
    subst hn
    cases ht with
    | number i => exact absurd ⟨i, rfl⟩ hnumber

end SocketStrategies.Json
