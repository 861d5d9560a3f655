import SocketStrategies.Json.Numeral

/-!
# Integers as numerals

An integer is written in digits without a leading zero, behind a minus sign if it is negative.
That is read as the same numeral as long as nothing follows that goes on with the number, and the
numeral spells the integer.
-/

namespace SocketStrategies.Json.Numeral

open Decimal (digits isDigit)

/-- Whether these bytes start with no digit. -/
def NoDigit (rest : Bytes) : Prop := ∀ c b, rest = c :: b → isDigit c = false

/-- Whether a number is over where these bytes start. -/
def EndsAt (rest : Bytes) : Prop :=
  ∀ c b, rest = c :: b → isDigit c = false ∧ c ≠ 46 ∧ c ≠ 101 ∧ c ≠ 69

theorem endsAt_nil : EndsAt [] := fun c b h => absurd h.symm (List.cons_ne_nil c b)

theorem endsAt_cons {c : UInt8} (h : isDigit c = false ∧ c ≠ 46 ∧ c ≠ 101 ∧ c ≠ 69) (b : Bytes) :
    EndsAt (c :: b) := by
  rintro c' b' heq
  obtain ⟨rfl, -⟩ := List.cons.inj heq
  exact h

theorem EndsAt.noDigit {rest : Bytes} (h : EndsAt rest) : NoDigit rest :=
  fun c b hrest => (h c b hrest).1

theorem noDigit_cons {c : UInt8} (h : isDigit c = false) (b : Bytes) : NoDigit (c :: b) := by
  intro c' b' heq
  obtain ⟨rfl, -⟩ := List.cons.inj heq
  exact h

/-! ## Digits -/

theorem digits_ne_nil (n : Nat) : digits n ≠ [] := by
  rw [digits]
  split
  · exact List.cons_ne_nil _ _
  · exact List.append_ne_nil_of_right_ne_nil _ (List.cons_ne_nil _ _)

/-- Only zero is written with a zero in front. -/
theorem head_digits_ne_zero {n : Nat} (hn : n ≠ 0) : (digits n).head (digits_ne_nil n) ≠ 48 := by
  induction n using Nat.strongRecOn with
  | ind n ih =>
      by_cases hsmall : n < 10
      · have hdigits : digits n = [Decimal.digit n] := by rw [digits, if_pos hsmall]
        have hall : ∀ m < 10, m ≠ 0 → Decimal.digit m ≠ 48 := by decide
        simp only [hdigits, List.head_cons]
        exact hall n hsmall hn
      · have hdigits : digits n = digits (n / 10) ++ [Decimal.digit (n % 10)] := by
          rw [digits, if_neg hsmall]
        simp only [hdigits, List.head_append_of_ne_nil (digits_ne_nil (n / 10))]
        exact ih (n / 10) (by omega) (by omega)

theorem readDigits_digits (n : Nat) {rest : Bytes} (h : NoDigit rest) :
    readDigits (digits n ++ rest) = some (digits n, rest) := by
  have hall : ∀ d ∈ digits n, isDigit d = true := fun d hd => Decimal.isDigit_of_mem_digits hd
  have htake : rest.takeWhile isDigit = [] := by
    cases rest with
    | nil => rfl
    | cons c b => rw [List.takeWhile_cons, h c b rfl, if_neg Bool.false_ne_true]
  have hdrop : rest.dropWhile isDigit = rest := by
    cases rest with
    | nil => rfl
    | cons c b => rw [List.dropWhile_cons, h c b rfl, if_neg Bool.false_ne_true]
  unfold readDigits
  rw [List.takeWhile_append_of_pos hall, List.dropWhile_append_of_pos hall, htake, hdrop,
    List.append_nil]
  cases hds : digits n with
  | nil => exact absurd hds (digits_ne_nil n)
  | cons d ds => rfl

theorem readWhole_digits (n : Nat) {rest : Bytes} (h : NoDigit rest) :
    readWhole (digits n ++ rest) = some (digits n, rest) := by
  unfold readWhole
  rw [readDigits_digits n h]
  simp only [Option.bind_eq_bind, Option.bind_some]
  split
  · -- a zero in front stands alone
    rename_i second more hds
    have hn : n ≠ 0 := by
      rintro rfl
      have hzero : digits 0 = [48] := by rw [digits]; rfl
      rw [hzero] at hds
      exact absurd (List.cons.inj hds).2.symm (List.cons_ne_nil _ _)
    have hhead := head_digits_ne_zero hn
    simp only [hds, List.head_cons] at hhead
    exact absurd rfl hhead
  · rfl

/-! ## Numerals -/

theorem readFraction_of_endsAt {rest : Bytes} (h : EndsAt rest) :
    readFraction rest = some ([], rest) := by
  unfold readFraction
  split
  · exact absurd rfl (h _ _ rfl).2.1
  · rfl

theorem readExponent_of_endsAt {rest : Bytes} (h : EndsAt rest) :
    readExponent rest = some (none, rest) := by
  cases rest with
  | nil => rfl
  | cons c b =>
      obtain ⟨-, -, hsmall, hcapital⟩ := h c b rfl
      have hc : ¬ (c == 101 || c == 69) = true := by
        rw [Bool.or_eq_true, beq_iff_eq, beq_iff_eq]
        exact not_or.mpr ⟨hsmall, hcapital⟩
      exact if_neg hc

theorem write_ofInt (i : Int) :
    (ofInt i).write = (if i < 0 then [45] else []) ++ digits i.natAbs := by
  simp only [write, ofInt, List.isEmpty_nil, if_true, Option.elim_none, List.append_nil,
    decide_eq_true_eq]

/-- A number is written with a minus sign or a digit in front. -/
theorem exists_write_ofInt (i : Int) :
    ∃ c b, (ofInt i).write = c :: b ∧ (c = 45 ∨ isDigit c = true) := by
  rw [write_ofInt]
  split
  · exact ⟨45, digits i.natAbs, rfl, Or.inl rfl⟩
  · obtain ⟨d, ds, hds⟩ := List.exists_cons_of_ne_nil (digits_ne_nil i.natAbs)
    refine ⟨d, ds, hds, Or.inr ?_⟩
    exact Decimal.isDigit_of_mem_digits (hds ▸ List.mem_cons_self)

/-- Behind the digits of an integer a fraction and an exponent are looked for. -/
theorem read_write_ofInt_of_noDigit (i : Int) {rest : Bytes} (h : NoDigit rest) :
    read ((ofInt i).write ++ rest)
      = (readFraction rest).bind fun f => (readExponent f.2).map fun e =>
          (⟨decide (i < 0), digits i.natAbs, f.1, e.1⟩, e.2) := by
  rw [write_ofInt]
  unfold read
  by_cases hneg : i < 0
  · rw [if_pos hneg]
    simp only [List.cons_append, List.nil_append, readWhole_digits _ h, Option.bind_eq_bind,
      Option.bind_some, hneg, decide_true, Option.map_eq_bind]
    rfl
  · rw [if_neg hneg, List.nil_append]
    -- a digit in front is no sign
    obtain ⟨d, ds, hds⟩ := List.exists_cons_of_ne_nil (digits_ne_nil i.natAbs)
    have hd : isDigit d = true := Decimal.isDigit_of_mem_digits (hds ▸ List.mem_cons_self)
    have hsign : ∀ r, digits i.natAbs ++ rest ≠ 45 :: r := by
      intro r heq
      rw [hds] at heq
      rw [(List.cons.inj heq).1] at hd
      exact absurd hd (by decide)
    split
    · rename_i negative b hmatch
      split at hmatch
      · exact absurd ‹_› (hsign _)
      · obtain ⟨rfl, rfl⟩ := Prod.mk.inj hmatch
        simp only [readWhole_digits _ h, Option.bind_eq_bind, Option.bind_some, hneg, decide_false,
          Option.map_eq_bind]
        rfl

/-- **An integer is read as it was written.** -/
theorem read_write_ofInt (i : Int) {rest : Bytes} (h : EndsAt rest) :
    read ((ofInt i).write ++ rest) = some (ofInt i, rest) := by
  rw [read_write_ofInt_of_noDigit i h.noDigit, readFraction_of_endsAt h, Option.bind_some,
    readExponent_of_endsAt h, Option.map_some]
  rfl

/-! ## Numerals that are cut -/

/-- A digit behind a zero in front is refused. -/
theorem readWhole_zero {c : UInt8} (hc : isDigit c = true) (rest : Bytes) :
    readWhole (48 :: c :: rest) = none := by
  have hdigits : readDigits (48 :: c :: rest)
      = some (48 :: c :: rest.takeWhile isDigit, rest.dropWhile isDigit) := by
    have hzero : isDigit 48 = true := by decide
    rw [readDigits, List.takeWhile_cons, if_pos hzero, List.takeWhile_cons, if_pos hc,
      List.dropWhile_cons, if_pos hzero, List.dropWhile_cons, if_pos hc]
  rw [readWhole, hdigits]
  rfl

/-- A point or an exponent without digits is no number, and neither is a zero with a
digit behind it. -/
theorem read_write_ofInt_concat {i : Int} {c : UInt8}
    (h : c ∈ [46, 101, 69] ∨ i = 0 ∧ isDigit c = true) : read ((ofInt i).write ++ [c]) = none := by
  rcases h with hc | ⟨rfl, hc⟩
  · have hdigit : isDigit c = false := by
      simp only [List.mem_cons, List.not_mem_nil, or_false] at hc
      rcases hc with rfl | rfl | rfl
      all_goals decide
    rw [read_write_ofInt_of_noDigit i (noDigit_cons hdigit [])]
    simp only [List.mem_cons, List.not_mem_nil, or_false] at hc
    rcases hc with rfl | rfl | rfl
    all_goals rfl
  · have hzero : (ofInt 0).write ++ [c] = 48 :: [c] := by
      rw [write_ofInt, digits]
      rfl
    rw [hzero, read]
    · simp only [readWhole_zero hc, Option.bind_eq_bind, Option.bind_none]
    · intro r hsign
      exact absurd (List.cons.inj hsign).1 (by decide)

theorem integer?_ofInt (i : Int) : (ofInt i).integer? = some i := by
  simp only [integer?, ofInt, List.isEmpty_nil, Option.isNone_none, Bool.and_self, if_true,
    Decimal.ofDigits_digits]
  by_cases hneg : i < 0
  · rw [if_pos (decide_eq_true hneg), if_neg (by omega), Int.ofNat_natAbs_of_nonpos (by omega),
      Int.neg_neg]
  · have hdecide : ¬ decide (i < 0) = true := by rwa [decide_eq_true_eq]
    rw [if_neg hdecide, Int.natAbs_of_nonneg (by omega)]

theorem ofInt_injective {i j : Int} (h : ofInt i = ofInt j) : i = j := by
  have hinteger := congrArg integer? h
  rw [integer?_ofInt, integer?_ofInt] at hinteger
  exact Option.some.inj hinteger

end SocketStrategies.Json.Numeral
