import SocketStrategies.Json.Reader
import SocketStrategies.Proofs.Text.Utf8

/-!
# Texts in quotes

A character stands in quotes as an escape of one letter, as its number in hexadecimal, or as its
own bytes. Whichever it is, reading finds parts that are joined to the bytes of the character
again, whatever follows, so a text is read as it was written.
-/

namespace SocketStrategies.Json

/-- Bytes inside quotes, and the parts that they are read as. -/
inductive SpeltAs : Bytes → List TextPart → Prop where
  /-- A letter for a byte. -/
  | escape {e b : UInt8} : e ≠ 117 → escaped? e = some b → SpeltAs [92, e] [.byte b]
  /-- The number of a control character. -/
  | unit {high low : Nat} : high < 16 → low < 16 →
      SpeltAs [92, 117, 48, 48, hexDigit high, hexDigit low] [.unit (16 * high + low)]
  /-- Bytes that stand for themselves. -/
  | plain {bs : Bytes} : (∀ b ∈ bs, 32 ≤ b.toNat ∧ b ≠ 34 ∧ b ≠ 92) → SpeltAs bs (bs.map .byte)

/-! ## Reading parts -/

theorem hexValue?_hexDigit {n : Nat} (h : n < 16) : hexValue? (hexDigit n) = some n := by
  have hall : ∀ m < 16, hexValue? (hexDigit m) = some m := by decide
  exact hall n h

theorem readParts_escape {e b : UInt8} (he : e ≠ 117) (hb : escaped? e = some b) (rest : Bytes) :
    readParts (92 :: e :: rest) = (readParts rest).map fun r => (.byte b :: r.1, r.2) := by
  rw [readParts]
  · rw [hb]
    cases readParts rest with
    | none => rfl
    | some r => rfl
  · intro _ _ _ _ _ h
    exact absurd h he

theorem readParts_unit {a b c d : UInt8} {w x y z : Nat} (ha : hexValue? a = some w)
    (hb : hexValue? b = some x) (hc : hexValue? c = some y) (hd : hexValue? d = some z)
    (rest : Bytes) :
    readParts (92 :: 117 :: a :: b :: c :: d :: rest)
      = (readParts rest).map fun r => (.unit (256 * (16 * w + x) + 16 * y + z) :: r.1, r.2) := by
  rw [readParts, ha, hb, hc, hd]
  cases readParts rest with
  | none => rfl
  | some r => rfl

theorem readParts_plain {b : UInt8} (hb : 32 ≤ b.toNat ∧ b ≠ 34 ∧ b ≠ 92) (rest : Bytes) :
    readParts (b :: rest) = (readParts rest).map fun r => (.byte b :: r.1, r.2) := by
  obtain ⟨hlow, hquote, hslash⟩ := hb
  have hlow' : ¬ b < 32 := fun h => Nat.not_lt.mpr hlow h
  have hstop : ¬ (decide (b < 32) || b == 92) = true := by
    rw [Bool.or_eq_true, decide_eq_true_eq, beq_iff_eq]
    exact not_or.mpr ⟨hlow', hslash⟩
  rw [readParts]
  · rw [if_neg hstop]
    cases readParts rest with
    | none => rfl
    | some r => rfl
  · exact fun h => hquote h
  · exact fun _ _ _ _ _ h _ => hslash h
  · exact fun _ _ h _ => hslash h

theorem readParts_append {bs : Bytes} {parts : List TextPart} (h : SpeltAs bs parts)
    (rest : Bytes) :
    readParts (bs ++ rest) = (readParts rest).map fun r => (parts ++ r.1, r.2) := by
  cases h with
  | escape he hb => exact readParts_escape he hb rest
  | @unit high low hhigh hlow =>
      have hzero : hexValue? 48 = some 0 := rfl
      have hunit := readParts_unit hzero hzero (hexValue?_hexDigit hhigh)
        (hexValue?_hexDigit hlow) rest
      simp only [Nat.mul_zero, Nat.zero_add] at hunit
      exact hunit
  | plain hbs =>
      induction bs with
      | nil =>
          show readParts rest = (readParts rest).map id
          rw [Option.map_id_fun, id]
      | cons b bs ih =>
          obtain ⟨hb, hbs⟩ := List.forall_mem_cons.mp hbs
          rw [List.cons_append, readParts_plain hb, ih hbs, Option.map_map]
          rfl

/-! ## Joining parts -/

theorem joinParts_bytes (bs : Bytes) (parts : List TextPart) :
    joinParts (bs.map .byte ++ parts) = (joinParts parts).map (bs ++ ·) := by
  induction bs with
  | nil =>
      show joinParts parts = (joinParts parts).map id
      rw [Option.map_id_fun, id]
  | cons b bs ih =>
      rw [List.map_cons, List.cons_append, joinParts, ih, Option.map_map]
      rfl

/-- A number below the surrogates is a character of its own. -/
theorem joinParts_unit {n : Nat} (h : n < 0xD800) (parts : List TextPart) :
    joinParts (.unit n :: parts)
      = (joinParts parts).map (String.utf8EncodeChar (Char.ofNat n) ++ ·) := by
  have hhigh : ¬ (decide (0xD800 ≤ n) && decide (n < 0xDC00)) = true := by
    rw [Bool.and_eq_true, decide_eq_true_eq, decide_eq_true_eq]
    omega
  have hlow : ¬ (decide (0xDC00 ≤ n) && decide (n < 0xE000)) = true := by
    rw [Bool.and_eq_true, decide_eq_true_eq, decide_eq_true_eq]
    omega
  rw [joinParts.eq_def]
  dsimp only
  rw [if_neg hhigh, if_neg hlow, Utf8.encode_toString]

/-! ## Writing a text -/

/-- The characters with an escape of one letter: the letter, and the byte that it stands for. -/
def letters : List (Char × UInt8 × UInt8) :=
  [('"', 34, 34), ('\\', 92, 92), ('\x08', 98, 8), ('\x0c', 102, 12), ('\n', 110, 10),
    ('\r', 114, 13), ('\t', 116, 9)]

theorem writeChar_of_mem_letters : ∀ t ∈ letters, writeChar t.1 = [92, t.2.1] ∧ t.2.1 ≠ 117
    ∧ escaped? t.2.1 = some t.2.2 ∧ String.utf8EncodeChar t.1 = [t.2.2] := by
  decide

theorem writeChar_of_not_letter {c : Char} (h : ∀ t ∈ letters, c ≠ t.1) :
    writeChar c = if c.toNat < 32 then
        [92, 117, 48, 48, hexDigit (c.toNat / 16), hexDigit (c.toNat % 16)]
      else String.utf8EncodeChar c := by
  simp only [letters, List.forall_mem_cons, ← beq_eq_false_iff_ne] at h
  obtain ⟨h1, h2, h3, h4, h5, h6, h7, -⟩ := h
  simp only [writeChar, h1, h2, h3, h4, h5, h6, h7, Bool.false_eq_true, if_false,
    Utf8.encode_toString]

/-- No byte of a character that stands for itself ends a text or starts an escape. -/
theorem plain_of_mem_utf8EncodeChar {c : Char} (hlow : 32 ≤ c.toNat) (hquote : c ≠ '"')
    (hslash : c ≠ '\\')
    {b : UInt8} (hb : b ∈ String.utf8EncodeChar c) : 32 ≤ b.toNat ∧ b ≠ 34 ∧ b ≠ 92 := by
  rcases Nat.lt_or_ge c.toNat 128 with hc | hc
  · -- the only byte is the number of the character
    rw [Utf8.utf8EncodeChar_of_lt hc, List.mem_singleton] at hb
    have hn : b.toNat = c.toNat := by
      rw [hb, UInt8.toNat_ofNat']
      omega
    have hne : ∀ {d : Char} {x : UInt8}, c ≠ d → x.toNat = d.toNat → b ≠ x := by
      rintro d x hd hx rfl
      rw [hn] at hx
      exact hd (by rw [← Char.ofNat_toNat c, hx, Char.ofNat_toNat])
    exact ⟨by omega, hne hquote rfl, hne hslash rfl⟩
  · have hhigh := Utf8.le_of_mem_utf8EncodeChar hc hb
    have hne : ∀ {x : UInt8}, x.toNat < 128 → b ≠ x := by
      rintro x hx rfl
      omega
    exact ⟨by omega, hne (by decide), hne (by decide)⟩

/-- A character is written as something that is read as its bytes. -/
theorem exists_speltAs (c : Char) :
    ∃ parts, SpeltAs (writeChar c) parts
      ∧ ∀ more, joinParts (parts ++ more)
        = (joinParts more).map (String.utf8EncodeChar c ++ ·) := by
  by_cases hletter : ∃ t ∈ letters, c = t.1
  · obtain ⟨t, ht, rfl⟩ := hletter
    obtain ⟨hwrite, hne, hescaped, hencode⟩ := writeChar_of_mem_letters t ht
    rw [hwrite, hencode]
    exact ⟨_, .escape hne hescaped, joinParts_bytes [t.2.2]⟩
  · have hno : ∀ t ∈ letters, c ≠ t.1 := fun t ht h => hletter ⟨t, ht, h⟩
    rw [writeChar_of_not_letter hno]
    split
    · -- a control character is its number
      rename_i hlow
      refine ⟨_, .unit (Nat.div_lt_of_lt_mul (by omega)) (Nat.mod_lt _ (by omega)), fun more => ?_⟩
      rw [Nat.div_add_mod, List.singleton_append, joinParts_unit (by omega), Char.ofNat_toNat]
    · rename_i hlow
      have hquote := hno ('"', 34, 34) (by decide)
      have hslash := hno ('\\', 92, 92) (by decide)
      exact ⟨_, .plain fun b hb =>
        plain_of_mem_utf8EncodeChar (Nat.not_lt.mp hlow) hquote hslash hb, joinParts_bytes _⟩

theorem exists_readParts_chars (cs : List Char) (rest : Bytes) :
    ∃ parts, readParts (cs.flatMap writeChar ++ 34 :: rest) = some (parts, rest)
      ∧ joinParts parts = some (cs.flatMap String.utf8EncodeChar) := by
  induction cs with
  | nil => exact ⟨[], by rw [List.flatMap_nil, List.nil_append, readParts], rfl⟩
  | cons c cs ih =>
      obtain ⟨parts, hparts, hjoin⟩ := ih
      obtain ⟨front, hspelt, hfront⟩ := exists_speltAs c
      refine ⟨front ++ parts, ?_, ?_⟩
      · rw [List.flatMap_cons, List.append_assoc, readParts_append hspelt, hparts]
        rfl
      · rw [hfront, hjoin, List.flatMap_cons]
        rfl

/-- **A text is read as it was written**, whatever follows its closing quotation mark. -/
theorem readText_writeText (s : String) (rest : Bytes) :
    ∃ inner, writeText s ++ rest = 34 :: inner ∧ readText inner = some (some s, rest) := by
  obtain ⟨parts, hparts, hjoin⟩ := exists_readParts_chars s.toList rest
  rw [← Utf8.encode_eq_flatMap] at hjoin
  refine ⟨s.toList.flatMap writeChar ++ 34 :: rest, ?_, ?_⟩
  · rw [writeText, List.cons_append, List.cons_append, List.append_assoc, List.singleton_append]
  · rw [readText, hparts]
    simp only [Option.bind_eq_bind, Option.bind_some, hjoin, Utf8.decode?_encode]

end SocketStrategies.Json
