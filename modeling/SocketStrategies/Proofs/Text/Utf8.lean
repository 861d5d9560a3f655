import SocketStrategies.Text.Basic

/-!
# The bytes of a text, character by character

A text is encoded one character after the other. A character below 128 is one byte, its own
number, and the bytes of every other character are 128 or more, so that a byte below 128 always is
a character. The byte that starts a character never stands inside one, so that bytes tell where
they can be cut.

The length of a text in bytes is the `width` of its characters. Cutting a piece out of a text
makes it no wider.

Bytes below 128 are a text, and so are two texts one after the other.
-/

namespace SocketStrategies.Utf8

theorem encode_ofList (cs : List Char) :
    encode (String.ofList cs) = cs.flatMap String.utf8EncodeChar := by
  rw [encode, String.toUTF8_eq_toByteArray, String.toByteArray_ofList]
  exact List.toList_data_toByteArray

theorem encode_eq_flatMap (s : String) : encode s = s.toList.flatMap String.utf8EncodeChar := by
  rw [← encode_ofList, String.ofList_toList]

theorem encode_inj {s t : String} : encode s = encode t ↔ s = t := by
  constructor
  · intro h
    have hs := decode?_encode s
    rw [h, decode?_encode] at hs
    exact (Option.some.inj hs).symm
  · exact congrArg encode

theorem encode_toString (c : Char) : encode c.toString = String.utf8EncodeChar c := by
  have h := encode_ofList [c]
  rw [List.flatMap_singleton] at h
  exact h

theorem utf8EncodeChar_of_lt {c : Char} (h : c.toNat < 128) :
    String.utf8EncodeChar c = [UInt8.ofNat c.toNat] := by
  delta String.utf8EncodeChar
  exact if_pos (Nat.le_of_lt_succ h)

theorem length_utf8EncodeChar_eq_one_iff {c : Char} :
    (String.utf8EncodeChar c).length = 1 ↔ c.toNat < 128 := by
  rw [String.length_utf8EncodeChar, Char.utf8Size_eq_one_iff]
  exact Nat.lt_succ_iff.symm

theorem le_of_mem_utf8EncodeChar {c : Char} (h : 128 ≤ c.toNat) {b : UInt8}
    (hb : b ∈ String.utf8EncodeChar c) : 128 ≤ b.toNat := by
  have hlead : ∀ n, 128 ≤ n → n < 256 → 128 ≤ (UInt8.ofNat n).toNat := by
    intro n hn hlt
    rw [UInt8.toNat_ofNat']
    omega
  have hc : ¬ c.val.toNat ≤ 127 := Nat.not_le.mpr h
  delta String.utf8EncodeChar at hb
  dsimp only at hb
  rw [if_neg hc] at hb
  -- two, three or four bytes, each of them with its top bit set
  split at hb
  · simp only [List.mem_cons, List.not_mem_nil, or_false] at hb
    rcases hb with rfl | rfl
    all_goals exact hlead _ (by omega) (by omega)
  · split at hb
    · simp only [List.mem_cons, List.not_mem_nil, or_false] at hb
      rcases hb with rfl | rfl | rfl
      all_goals exact hlead _ (by omega) (by omega)
    · simp only [List.mem_cons, List.not_mem_nil, or_false] at hb
      rcases hb with rfl | rfl | rfl | rfl
      all_goals exact hlead _ (by omega) (by omega)

/-- No character has a byte from 248 on. -/
theorem lt_of_mem_utf8EncodeChar {c : Char} {b : UInt8} (hb : b ∈ String.utf8EncodeChar c) :
    b.toNat < 248 := by
  have hlow : ∀ n, n < 248 → (UInt8.ofNat n).toNat < 248 := by
    intro n hn
    rw [UInt8.toNat_ofNat']
    omega
  delta String.utf8EncodeChar at hb
  dsimp only at hb
  -- one to four bytes, each of them made of a few bits of the character
  split at hb
  · rw [List.mem_singleton.mp hb]
    exact hlow _ (by omega)
  · split at hb
    · simp only [List.mem_cons, List.not_mem_nil, or_false] at hb
      rcases hb with rfl | rfl
      all_goals exact hlow _ (by omega)
    · split at hb
      · simp only [List.mem_cons, List.not_mem_nil, or_false] at hb
        rcases hb with rfl | rfl | rfl
        all_goals exact hlow _ (by omega)
      · simp only [List.mem_cons, List.not_mem_nil, or_false] at hb
        rcases hb with rfl | rfl | rfl | rfl
        all_goals exact hlow _ (by omega)

theorem lt_of_mem_encode {s : String} {b : UInt8} (hb : b ∈ encode s) : b.toNat < 248 := by
  rw [encode_eq_flatMap] at hb
  obtain ⟨c, -, hc⟩ := List.mem_flatMap.mp hb
  exact lt_of_mem_utf8EncodeChar hc

/-! ## Where characters stand -/

theorem eq_of_encoded_prefix {c d : Char} {x y : Bytes}
    (h : String.utf8EncodeChar c ++ x = String.utf8EncodeChar d ++ y) : c = d := by
  -- the first character is what decoding starts with
  have hc := ByteArray.utf8DecodeChar?_utf8EncodeChar_append (b := x.toByteArray) (c := c)
  have hd := ByteArray.utf8DecodeChar?_utf8EncodeChar_append (b := y.toByteArray) (c := d)
  rw [← List.toByteArray_append] at hc hd
  rw [h, hd] at hc
  exact (Option.some.inj hc).symm

theorem exists_cons_of_flatMap {cs : List Char} {c : Char} {y : Bytes}
    (h : cs.flatMap String.utf8EncodeChar = String.utf8EncodeChar c ++ y) :
    ∃ rest, cs = c :: rest ∧ rest.flatMap String.utf8EncodeChar = y := by
  cases cs with
  | nil =>
      have hnil := (List.append_eq_nil_iff.mp h.symm).1
      exact absurd hnil String.utf8EncodeChar_ne_nil
  | cons d rest =>
      rw [List.flatMap_cons] at h
      obtain rfl := eq_of_encoded_prefix h
      exact ⟨rest, rfl, List.append_cancel_left h⟩

/-- Of the bytes of a character only the first one can start a character. -/
theorem not_isUTF8FirstByte_of_append {c : Char} {x y : Bytes} {b : UInt8}
    (h : String.utf8EncodeChar c = x ++ b :: y) (hx : x ≠ []) : ¬ b.IsUTF8FirstByte := by
  have hlt : x.length < (String.utf8EncodeChar c).length := by
    rw [h, List.length_append, List.length_cons]
    omega
  have hb : (String.utf8EncodeChar c)[x.length] = b := by
    simp only [h, List.getElem_append_right (Nat.le_refl _), Nat.sub_self, List.getElem_cons_zero]
  intro hfirst
  rw [← hb, UInt8.isUTF8FirstByte_getElem_utf8EncodeChar] at hfirst
  exact hx (List.eq_nil_of_length_eq_zero hfirst)

theorem exists_firstByte (c : Char) :
    ∃ b rest, String.utf8EncodeChar c = b :: rest ∧ b.IsUTF8FirstByte := by
  have hfirst := UInt8.isUTF8FirstByte_getElem_zero_utf8EncodeChar (c := c)
  obtain ⟨b, rest, h⟩ := List.exists_cons_of_ne_nil (String.utf8EncodeChar_ne_nil (c := c))
  simp only [h, List.getElem_cons_zero] at hfirst
  exact ⟨b, rest, h, hfirst⟩

/-- Bytes of a text can be cut between two characters wherever a byte stands that can start one. -/
theorem exists_append_of_flatMap {cs : List Char} {x y : Bytes} {b : UInt8}
    (h : cs.flatMap String.utf8EncodeChar = x ++ b :: y) (hb : b.IsUTF8FirstByte) :
    ∃ front back, cs = front ++ back ∧ front.flatMap String.utf8EncodeChar = x
      ∧ back.flatMap String.utf8EncodeChar = b :: y := by
  induction cs generalizing x with
  | nil => exact absurd h (by simp)
  | cons c cs ih =>
      by_cases hx : x = []
      · subst hx
        exact ⟨[], c :: cs, rfl, rfl, h⟩
      · rw [List.flatMap_cons] at h
        rcases List.append_eq_append_iff.mp h with ⟨x', rfl, hrest⟩ | ⟨mid, hc, hy⟩
        · obtain ⟨front, back, rfl, rfl, hback⟩ := ih hrest
          exact ⟨c :: front, back, rfl, List.flatMap_cons, hback⟩
        · cases mid with
          | nil =>
              obtain ⟨front, back, rfl, hfront, hback⟩ := ih (x := []) hy.symm
              refine ⟨c :: front, back, rfl, ?_, hback⟩
              rw [List.flatMap_cons, hfront, List.append_nil, hc, List.append_nil]
          | cons b' mid =>
              -- the cut would be inside a character
              obtain ⟨rfl, -⟩ := List.cons.inj hy
              exact absurd hb (not_isUTF8FirstByte_of_append hc hx)

/-- A byte below 128 stands once for each time its character does. -/
theorem count_flatMap_of_lt {c : Char} (hc : c.toNat < 128) (cs : List Char) :
    (cs.flatMap String.utf8EncodeChar).count (UInt8.ofNat c.toNat) = cs.count c := by
  have hbyte : (UInt8.ofNat c.toNat).toNat = c.toNat := by
    rw [UInt8.toNat_ofNat']
    omega
  induction cs with
  | nil => rfl
  | cons d cs ih =>
      rw [List.flatMap_cons, List.count_append, ih]
      by_cases hcd : d = c
      · subst hcd
        rw [utf8EncodeChar_of_lt hc, List.count_singleton_self, List.count_cons_self, Nat.add_comm]
      · -- no byte of another character is this one
        have habsent : UInt8.ofNat c.toNat ∉ String.utf8EncodeChar d := by
          intro hmem
          by_cases hd : d.toNat < 128
          · rw [utf8EncodeChar_of_lt hd, List.mem_singleton] at hmem
            have hnat := congrArg UInt8.toNat hmem
            rw [hbyte, UInt8.toNat_ofNat'] at hnat
            exact hcd (Char.toNat_inj.mp (by omega))
          · have hhigh := le_of_mem_utf8EncodeChar (Nat.not_lt.mp hd) hmem
            omega
        rw [List.count_eq_zero_of_not_mem habsent, List.count_cons_of_ne hcd, Nat.zero_add]

theorem mem_flatMap_of_lt {c : Char} (hc : c.toNat < 128) (cs : List Char) :
    UInt8.ofNat c.toNat ∈ cs.flatMap String.utf8EncodeChar ↔ c ∈ cs := by
  rw [← List.count_pos_iff, count_flatMap_of_lt hc, List.count_pos_iff]

/-! ## Lengths -/

/-- How many bytes characters are encoded in. -/
def width (cs : List Char) : Nat := (cs.flatMap String.utf8EncodeChar).length

theorem length_eq_width (s : String) : length s = width s.toList := by
  rw [← length_encode, encode_eq_flatMap, width]

theorem width_append (a b : List Char) : width (a ++ b) = width a + width b := by
  unfold width
  rw [List.flatMap_append, List.length_append]

theorem width_cons (c : Char) (cs : List Char) :
    width (c :: cs) = (String.utf8EncodeChar c).length + width cs := by
  unfold width
  rw [List.flatMap_cons, List.length_append]

theorem width_cons_of_lt {c : Char} (h : c.toNat < 128) (cs : List Char) :
    width (c :: cs) = 1 + width cs := by
  rw [width_cons, utf8EncodeChar_of_lt h]
  rfl

theorem width_of_ascii {cs : List Char} (h : ∀ c ∈ cs, c.toNat < 128) : width cs = cs.length := by
  induction cs with
  | nil => rfl
  | cons c cs ih =>
      have htail := ih fun d hd => h d (List.mem_cons_of_mem c hd)
      rw [width_cons_of_lt (h c List.mem_cons_self), List.length_cons]
      omega

theorem length_le_width (cs : List Char) : cs.length ≤ width cs := by
  induction cs with
  | nil => exact Nat.le_refl 0
  | cons c cs ih =>
      have hpos := List.length_pos_iff.mpr (String.utf8EncodeChar_ne_nil (c := c))
      rw [width_cons, List.length_cons]
      omega

/-- Texts without wider characters are those that have as many bytes as characters. -/
theorem ascii_of_width_eq {cs : List Char} (h : width cs = cs.length) :
    ∀ c ∈ cs, c.toNat < 128 := by
  induction cs with
  | nil => exact fun c hc => absurd hc List.not_mem_nil
  | cons d cs ih =>
      have hpos := List.length_pos_iff.mpr (String.utf8EncodeChar_ne_nil (c := d))
      have hle := length_le_width cs
      rw [width_cons, List.length_cons] at h
      intro c hc
      rcases List.mem_cons.mp hc with rfl | hc
      · exact length_utf8EncodeChar_eq_one_iff.mp (by omega)
      · exact ih (by omega) c hc

theorem width_mono {a b : List Char} (h : a <:+: b) : width a ≤ width b := by
  obtain ⟨front, back, rfl⟩ := h
  rw [width_append, width_append]
  omega

/-! ## Bytes that are a text -/

/-- Whether bytes are the UTF-8 form of a text. -/
def IsText (b : Bytes) : Prop := ∃ s, decode? b = some s

theorem isText_encode (s : String) : IsText (encode s) := ⟨s, decode?_encode s⟩

theorem IsText.append {a b : Bytes} (ha : IsText a) (hb : IsText b) : IsText (a ++ b) := by
  obtain ⟨s, hs⟩ := ha
  obtain ⟨t, ht⟩ := hb
  obtain rfl := decode?_eq_some_iff.mp hs
  obtain rfl := decode?_eq_some_iff.mp ht
  rw [encode_eq_flatMap, encode_eq_flatMap, ← List.flatMap_append, ← encode_ofList]
  exact isText_encode _

theorem toNat_ofNat_of_lt {n : Nat} (h : n < 128) : (Char.ofNat n).toNat = n := by
  have hvalid : n.isValidChar := Or.inl (by omega)
  rw [Char.ofNat, dif_pos hvalid]
  rfl

theorem isText_byte {c : UInt8} (h : c.toNat < 128) : IsText [c] := by
  have hnat := toNat_ofNat_of_lt h
  have hchar : encode (Char.ofNat c.toNat).toString = [c] := by
    rw [encode_toString, utf8EncodeChar_of_lt (by omega), hnat, UInt8.ofNat_toNat]
  rw [← hchar]
  exact isText_encode _

theorem isText_of_ascii {b : Bytes} (h : ∀ c ∈ b, c.toNat < 128) : IsText b := by
  induction b with
  | nil => exact isText_encode ""
  | cons c b ih =>
      obtain ⟨hc, hb⟩ := List.forall_mem_cons.mp h
      exact (isText_byte hc).append (ih hb)

end SocketStrategies.Utf8
