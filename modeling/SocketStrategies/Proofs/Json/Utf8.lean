import SocketStrategies.Proofs.Json.Tree

/-!
# What is written is text

Whatever a tree is written as is UTF-8 text. Texts inside quotes are the only place where bytes
from 128 on stand, and there they come a whole character at a time.
-/

namespace SocketStrategies.Json

open Utf8 (IsText)

theorem hexDigit_lt {n : Nat} (h : n < 16) : (hexDigit n).toNat < 128 := by
  have hall : ∀ m < 16, (hexDigit m).toNat < 128 := by decide
  exact hall n h

theorem isText_writeChar (c : Char) : IsText (writeChar c) := by
  by_cases hletter : ∃ t ∈ letters, c = t.1
  · obtain ⟨t, ht, rfl⟩ := hletter
    have hall : ∀ t ∈ letters, t.2.1.toNat < 128 := by decide
    rw [(writeChar_of_mem_letters t ht).1]
    exact (Utf8.isText_byte (by decide) : IsText [92]).append (Utf8.isText_byte (hall t ht))
  · rw [writeChar_of_not_letter fun t ht h => hletter ⟨t, ht, h⟩]
    split
    · -- a control character is its number
      rename_i hlow
      have hhigh : (hexDigit (c.toNat / 16)).toNat < 128 :=
        hexDigit_lt (Nat.div_lt_of_lt_mul (by omega))
      have hrest : (hexDigit (c.toNat % 16)).toNat < 128 := hexDigit_lt (Nat.mod_lt _ (by omega))
      exact Utf8.isText_of_ascii (by simp [hhigh, hrest])
    · rw [← Utf8.encode_toString]
      exact Utf8.isText_encode _

theorem isText_writeText (s : String) : IsText (writeText s) := by
  have hquote : IsText [34] := Utf8.isText_byte (by decide)
  have hchars : IsText (s.toList.flatMap writeChar) := by
    induction s.toList with
    | nil => exact Utf8.isText_encode ""
    | cons c cs ih =>
        rw [List.flatMap_cons]
        exact (isText_writeChar c).append ih
  exact (hquote.append hchars).append hquote

theorem isText_write_ofInt (i : Int) : IsText (Numeral.ofInt i).write := by
  rw [Numeral.write_ofInt]
  refine .append (Utf8.isText_of_ascii ?_) (Utf8.isText_of_ascii fun b hb => ?_)
  · split
    all_goals simp
  · have hdigit := Decimal.isDigit_of_mem_digits hb
    rw [Decimal.isDigit, Bool.and_eq_true, decide_eq_true_eq, decide_eq_true_eq,
      UInt8.le_iff_toNat_le, UInt8.le_iff_toNat_le] at hdigit
    obtain ⟨-, hb⟩ : 48 ≤ b.toNat ∧ b.toNat ≤ 57 := hdigit
    omega

theorem isText_writeItems {items : List Tree} (h : ∀ t ∈ items, IsText t.write) :
    IsText (Tree.writeItems items) := by
  have hclose : IsText [93] := Utf8.isText_byte (by decide)
  have hcomma : IsText [44] := Utf8.isText_byte (by decide)
  induction items with
  | nil =>
      rw [Tree.writeItems]
      exact hclose
  | cons t items ih =>
      obtain ⟨ht, hitems⟩ := List.forall_mem_cons.mp h
      cases items with
      | nil =>
          rw [Tree.writeItems]
          exact ht.append hclose
      | cons t' items =>
          rw [writeItems_cons_cons]
          exact ht.append (hcomma.append (ih hitems))

theorem isText_writeFields {fields : List (Option String × Tree)}
    (h : ∀ f ∈ fields, IsText f.2.write) :
    IsText (Tree.writeFields fields) := by
  have hclose : IsText [125] := Utf8.isText_byte (by decide)
  have hcolon : IsText [58] := Utf8.isText_byte (by decide)
  have hcomma : IsText [44] := Utf8.isText_byte (by decide)
  induction fields with
  | nil =>
      rw [Tree.writeFields]
      exact hclose
  | cons f fields ih =>
      obtain ⟨ht, hfields⟩ := List.forall_mem_cons.mp h
      have hfield : IsText (writeText (f.1.getD "") ++ 58 :: f.2.write) :=
        (isText_writeText _).append (hcolon.append ht)
      cases fields with
      | nil =>
          rw [Tree.writeFields]
          exact hfield.append hclose
      | cons f' fields =>
          rw [writeFields_cons_cons]
          exact hfield.append (hcomma.append (ih hfields))

/-- **A tree is written as UTF-8 text.** -/
theorem isText_write {t : Tree} (h : t.Plain) : IsText t.write := by
  induction h with
  | null => exact Utf8.isText_of_ascii (by simp [Tree.write])
  | bool b =>
      refine Utf8.isText_of_ascii ?_
      cases b with
      | true => simp [Tree.write]
      | false => simp [Tree.write]
  | number i => exact isText_write_ofInt i
  | text s => exact isText_writeText s
  | array _ ih =>
      rw [Tree.write]
      exact (Utf8.isText_byte (by decide) : IsText [91]).append (isText_writeItems ih)
  | object _ _ ih =>
      rw [Tree.write]
      exact (Utf8.isText_byte (by decide) : IsText [123]).append (isText_writeFields ih)

end SocketStrategies.Json
