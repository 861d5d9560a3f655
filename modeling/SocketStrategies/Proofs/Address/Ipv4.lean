import SocketStrategies.Address.Ipv4
import SocketStrategies.Proofs.Address.Locator
import SocketStrategies.Proofs.Text.Splitting

/-!
# How IPv4 addresses are written

There is one text for each address: a byte is read from the decimal digits that are written for
it, and from nothing else, since a zero in front is refused.
-/

namespace SocketStrategies.Ipv4

/-! ## Decimal numbers -/

theorem digitChar_of_isDigit {c : Char} (h : c.isDigit = true) :
    c.toNat - 48 < 10 ∧ Nat.digitChar (c.toNat - 48) = c := by
  have hbounds : 48 ≤ c.toNat ∧ c.toNat ≤ 57 := Char.isDigit_iff_toNat.mp h
  have hlt : c.toNat - 48 < 10 := by omega
  refine ⟨hlt, Char.toNat_inj.mp ?_⟩
  rw [Nat.toNat_digitChar_of_lt_ten hlt]
  exact Nat.add_sub_cancel' hbounds.1

/-- Digits behind those of a number that is not zero. -/
theorem toDigits_foldl_of_pos {cs : List Char} (hdigits : ∀ c ∈ cs, c.isDigit = true) {n : Nat}
    (hn : 0 < n) :
    Nat.toDigits 10 (cs.foldl (fun n c => 10 * n + (c.toNat - 48)) n)
      = Nat.toDigits 10 n ++ cs := by
  induction cs generalizing n with
  | nil => exact (List.append_nil _).symm
  | cons c cs ih =>
      obtain ⟨hc, hcs⟩ := List.forall_mem_cons.mp hdigits
      obtain ⟨hlt, hchar⟩ := digitChar_of_isDigit hc
      rw [List.foldl_cons, ih hcs (by omega), ← Nat.toDigits_append_toDigits (by decide) hn hlt,
        Nat.toDigits_of_lt_base hlt, hchar, List.append_assoc]
      rfl

/-- Digits without a zero in front are what is written for the number that they spell. -/
theorem toDigits_foldl {cs : List Char} (hne : cs ≠ []) (hdigits : ∀ c ∈ cs, c.isDigit = true)
    (hzero : cs.length = 1 ∨ cs.head? ≠ some '0') :
    Nat.toDigits 10 (cs.foldl (fun n c => 10 * n + (c.toNat - 48)) 0) = cs := by
  obtain ⟨c, cs, rfl⟩ := List.exists_cons_of_ne_nil hne
  obtain ⟨hc, hcs⟩ := List.forall_mem_cons.mp hdigits
  obtain ⟨hlt, hchar⟩ := digitChar_of_isDigit hc
  rw [List.foldl_cons, Nat.mul_zero, Nat.zero_add]
  rcases hzero with hone | hhead
  · rw [List.length_eq_zero_iff.mp (Nat.succ.inj hone)]
    exact (Nat.toDigits_of_lt_base hlt).trans (congrArg (fun d => [d]) hchar)
  · have hpos : 0 < c.toNat - 48 := by
      refine Nat.pos_of_ne_zero fun hz => hhead ?_
      rw [hz] at hchar
      rw [← hchar]
      rfl
    rw [toDigits_foldl_of_pos hcs hpos, Nat.toDigits_of_lt_base hlt, hchar]
    rfl

theorem head?_toDigits_ne_zero {n : Nat} (hn : 0 < n) : (Nat.toDigits 10 n).head? ≠ some '0' := by
  induction n using Nat.strongRecOn with
  | ind n ih =>
      rcases Nat.lt_or_ge n 10 with hlt | hge
      · rw [Nat.toDigits_of_lt_base hlt]
        have hdigit : ∀ m < 10, 0 < m → Nat.digitChar m ≠ '0' := by decide
        exact fun h => hdigit n hlt hn (Option.some.inj h)
      · rw [Nat.toDigits_of_base_le (by decide) hge,
          List.head?_append_of_ne_nil _ Nat.toDigits_ne_nil]
        exact ih (n / 10) (Nat.div_lt_self hn (by decide)) (by omega)

/-! ## Bytes -/

/-- What makes the digits of a byte. -/
theorem octet?_eq_some_iff_value {cs : List Char} {b : UInt8} :
    octet? cs = some b ↔ cs ≠ [] ∧ (∀ c ∈ cs, c.isDigit = true)
      ∧ (cs.length = 1 ∨ cs.head? ≠ some '0')
      ∧ cs.foldl (fun n c => 10 * n + (c.toNat - 48)) 0 = b.toNat := by
  have hbyte : b.toNat < 256 := b.toNat_lt
  unfold octet?
  dsimp only
  generalize cs.foldl (fun n c => 10 * n + (c.toNat - 48)) 0 = n
  simp only [Option.ite_none_left_eq_some, Bool.or_eq_true, Bool.and_eq_true, Bool.not_eq_true',
    not_or, not_and, bne_iff_ne, beq_iff_eq, decide_eq_true_eq, List.isEmpty_iff,
    Bool.not_eq_false, List.all_eq_true, and_assoc]
  rw [← or_iff_not_imp_left]
  constructor
  · rintro ⟨hne, hdigits, hzero, hfits, hvalue⟩
    refine ⟨hne, hdigits, hzero, ?_⟩
    rw [← Option.some.inj hvalue, UInt8.toNat_ofNat']
    omega
  · rintro ⟨hne, hdigits, hzero, rfl⟩
    exact ⟨hne, hdigits, hzero, by omega, congrArg some UInt8.ofNat_toNat⟩

/-- A byte is read from the digits that are written for it. -/
theorem octet?_eq_some_iff {cs : List Char} {b : UInt8} :
    octet? cs = some b ↔ cs = Nat.toDigits 10 b.toNat := by
  rw [octet?_eq_some_iff_value]
  constructor
  · rintro ⟨hne, hdigits, hzero, hvalue⟩
    rw [← hvalue, toDigits_foldl hne hdigits hzero]
  · rintro rfl
    refine ⟨Nat.toDigits_ne_nil, fun c => Nat.isDigit_of_mem_toDigits (by decide) (by decide), ?_,
      Locator.foldl_toDigits b.toNat⟩
    rcases Nat.eq_zero_or_pos b.toNat with hz | hpos
    · rw [hz]
      exact .inl rfl
    · exact .inr (head?_toDigits_ne_zero hpos)

/-! ## Addresses -/

theorem toList_render (x : Ipv4) :
    x.render.toList
      = ['.'].intercalate ([x.a, x.b, x.c, x.d].map fun n => Nat.toDigits 10 n.toNat) := by
  have hdigits : String.toList ∘ (fun n : UInt8 => toString n.toNat)
      = fun n => Nat.toDigits 10 n.toNat := by
    funext n
    rw [Function.comp_apply, Nat.toString_eq_ofList_toDigits, String.toList_ofList]
  rw [render, String.toList_intercalate, List.map_map, hdigits]
  rfl

/-- An address is read from the text that is written for it. -/
theorem ofChars?_eq_some_iff {cs : List Char} {x : Ipv4} :
    ofChars? cs = some x ↔ cs = x.render.toList := by
  rw [toList_render]
  constructor
  · intro h
    unfold ofChars? at h
    split at h
    · rename_i a b c d hsplit
      obtain ⟨ra, ha, h⟩ := Option.bind_eq_some_iff.mp h
      obtain ⟨rb, hb, h⟩ := Option.bind_eq_some_iff.mp h
      obtain ⟨rc, hc, h⟩ := Option.bind_eq_some_iff.mp h
      obtain ⟨rd, hd, h⟩ := Option.bind_eq_some_iff.mp h
      obtain rfl := Option.some.inj h
      rw [octet?_eq_some_iff] at ha hb hc hd
      rw [ha, hb, hc, hd] at hsplit
      have hjoined : ['.'].intercalate (cs.splitOn '.') = cs := List.intercalate_splitOn '.'
      rw [← hjoined, hsplit]
      rfl
    · cases h
  · rintro rfl
    have hsplit :
        (['.'].intercalate
            ([x.a, x.b, x.c, x.d].map fun n => Nat.toDigits 10 n.toNat)).splitOn '.'
          = [x.a, x.b, x.c, x.d].map fun n => Nat.toDigits 10 n.toNat := by
      refine List.splitOn_intercalate '.' ?_ (List.cons_ne_nil _ _)
      intro l hl hdot
      obtain ⟨n, -, rfl⟩ := List.mem_map.mp hl
      exact absurd (Nat.isDigit_of_mem_toDigits (by decide) (by decide) hdot) (by decide)
    have hoctet : ∀ n : UInt8, octet? (Nat.toDigits 10 n.toNat) = some n :=
      fun n => octet?_eq_some_iff.mpr rfl
    unfold ofChars?
    rw [hsplit]
    simp only [List.map_cons, List.map_nil, hoctet, Option.bind_eq_bind, Option.bind_some]

/-- The characters of a text may stand in a host. -/
theorem kept_of_mem_render {x : Ipv4} {c : Char} (hc : c ∈ x.render.toList) : Locator.Kept c := by
  rw [toList_render] at hc
  rcases Text.mem_intercalate hc with rfl | ⟨piece, hpiece, hc⟩
  · decide
  · obtain ⟨n, -, rfl⟩ := List.mem_map.mp hpiece
    exact Locator.kept_of_mem_toDigits (by decide) (by decide) hc

theorem colon_not_mem_render (x : Ipv4) : ':' ∉ x.render.toList :=
  fun hc => (kept_of_mem_render hc).ne (d := ':') (by decide) rfl

theorem render_ne_nil (x : Ipv4) : x.render.toList ≠ [] := by
  intro hnil
  have hread : ofChars? [] = some x := ofChars?_eq_some_iff.mpr hnil.symm
  cases hread

end SocketStrategies.Ipv4
