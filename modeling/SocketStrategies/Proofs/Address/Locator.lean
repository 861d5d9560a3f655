import Mathlib.Data.List.Basic
import Mathlib.Data.List.TakeWhile
import SocketStrategies.Address.Locator
import SocketStrategies.Proofs.Text.Trimming
import SocketStrategies.Proofs.Text.Utf8

/-!
# Locators of plain schemes

The host of a plain scheme is kept as it is: a character that may stand in a host stays, and what
is written for any other is made of characters that stay. So a host that was read, `PlainHost`, is
read again as itself.

A name and a port are told apart by the first colon, `authority?_append_colon`, and behind
that colon only digits make a port. A name never holds a colon, but an IPv6 address without
its brackets does.
-/

namespace SocketStrategies.Locator

/-! ## Characters of hosts -/

/-- Whether a character stands in a host as it is: it is visible ASCII and not forbidden. -/
structure Kept (c : Char) : Prop where
  visible : 32 < c.toNat
  ascii : c.toNat < 127
  allowed : isForbidden c = false

theorem kept_iff {c : Char} : Kept c ↔ 32 < c.toNat ∧ c.toNat < 127 ∧ isForbidden c = false := by
  constructor
  · intro h
    exact ⟨h.visible, h.ascii, h.allowed⟩
  · rintro ⟨hvisible, hascii, hallowed⟩
    exact ⟨hvisible, hascii, hallowed⟩

instance : DecidablePred Kept := fun _ => decidable_of_iff _ kept_iff.symm

theorem Kept.ne {c d : Char} (h : Kept c) (hd : isForbidden d = true) : c ≠ d := by
  rintro rfl
  rw [h.allowed] at hd
  cases hd

/-- Kept characters do not end an authority. -/
theorem Kept.not_endsAuthority {c : Char} (h : Kept c) (special : Bool) :
    endsAuthority special c = false := by
  have hslash := h.ne (d := '/') (by decide)
  have hmark := h.ne (d := '?') (by decide)
  have hhash := h.ne (d := '#') (by decide)
  have hback := h.ne (d := '\\') (by decide)
  simp [endsAuthority, hslash, hmark, hhash, hback]

theorem kept_hexDigit : ∀ n < 16, Kept (hexDigit n) := by decide

theorem kept_digitChar : ∀ n < 16, Kept (Nat.digitChar n) := by decide

/-- The digits of numbers are kept, in decimal as in hexadecimal. -/
theorem kept_of_mem_toDigits {b n : Nat} {c : Char} (hb : 1 < b) (hle : b ≤ 16)
    (h : c ∈ Nat.toDigits b n) :
    Kept c := by
  induction n using Nat.strongRecOn with
  | ind n ih =>
      rcases Nat.lt_or_ge n b with hn | hn
      · rw [Nat.toDigits_of_lt_base hn] at h
        rw [List.mem_singleton.mp h]
        exact kept_digitChar n (by omega)
      · rw [Nat.toDigits_of_base_le hb hn] at h
        rcases List.mem_append.mp h with h | h
        · exact ih (n / b) (Nat.div_lt_self (by omega) hb) h
        · have hdigit := Nat.mod_lt n (Nat.lt_of_succ_lt hb)
          rw [List.mem_singleton.mp h]
          exact kept_digitChar (n % b) (by omega)

/-- Whatever is written for a character of a host is kept when it is read again. -/
theorem kept_of_mem_encodeHostChar {c d : Char} (hc : isForbidden c = false)
    (hd : d ∈ encodeHostChar c) :
    Kept d := by
  unfold encodeHostChar at hd
  split at hd
  · rename_i hprint
    rw [Bool.and_eq_true, decide_eq_true_eq, decide_eq_true_eq] at hprint
    rw [List.mem_singleton.mp hd]
    refine ⟨?_, hprint.2, hc⟩
    -- a blank is printable, but forbidden
    rcases Nat.lt_or_eq_of_le hprint.1 with h | h
    · exact h
    · have hblank : c = ' ' := Char.toNat_inj.mp h.symm
      rw [hblank] at hc
      exact absurd hc (by decide)
  · obtain ⟨b, -, hb⟩ := List.mem_flatMap.mp hd
    have hlt := b.toNat_lt
    simp only [percentEncode, List.mem_cons, List.not_mem_nil, or_false] at hb
    rcases hb with rfl | rfl | rfl
    · decide
    · exact kept_hexDigit _ (by omega)
    · exact kept_hexDigit _ (by omega)

theorem encodeHostChar_of_kept {c : Char} (h : Kept c) : encodeHostChar c = [c] := by
  have hvisible := h.visible
  have hascii := h.ascii
  unfold encodeHostChar
  rw [if_pos]
  rw [Bool.and_eq_true, decide_eq_true_eq, decide_eq_true_eq]
  omega

theorem encodeHostChar_ne_nil (c : Char) : encodeHostChar c ≠ [] := by
  unfold encodeHostChar
  split
  · exact List.cons_ne_nil c []
  · intro hnil
    rw [Utf8.encode_toString] at hnil
    obtain ⟨b, bs, hbytes⟩ := List.exists_cons_of_ne_nil (String.utf8EncodeChar_ne_nil (c := c))
    rw [hbytes, List.flatMap_cons, percentEncode] at hnil
    exact List.cons_ne_nil _ _ hnil

/-! ## Hosts -/

/-- The hosts that plain schemes have: names of kept characters, at least one, and IPv6
addresses. -/
inductive PlainHost : Host → Prop where
  | name {s : String} (hne : s.toList ≠ []) (hkept : ∀ c ∈ s.toList, Kept c) : PlainHost (.name s)
  | ipv6 (x : Ipv6) : PlainHost (.ipv6 x)

theorem exists_ipv6_of_bracketed? {cs : List Char} {host : Host} (h : bracketed? cs = some host) :
    ∃ x, host = .ipv6 x := by
  unfold bracketed? at h
  split at h
  · obtain ⟨x, -, hx⟩ := Option.map_eq_some_iff.mp h
    exact ⟨x, hx.symm⟩
  · cases h

theorem plainHost_of_plainHost? {cs : List Char} {host : Host} (hne : cs ≠ [])
    (h : plainHost? cs = some host) : PlainHost host := by
  unfold plainHost? at h
  split at h
  · obtain ⟨x, rfl⟩ := exists_ipv6_of_bracketed? h
    exact .ipv6 x
  · split at h
    · cases h
    · rename_i hallowed
      rw [Bool.not_eq_true, List.any_eq_false] at hallowed
      obtain rfl := Option.some.inj h
      refine .name ?_ ?_
      all_goals rw [String.toList_ofList]
      · intro hnil
        obtain ⟨c, rest, rfl⟩ := List.exists_cons_of_ne_nil hne
        exact encodeHostChar_ne_nil c (List.flatMap_eq_nil_iff.mp hnil c List.mem_cons_self)
      · intro d hd
        obtain ⟨c, hc, hd⟩ := List.mem_flatMap.mp hd
        exact kept_of_mem_encodeHostChar (Bool.eq_false_iff.mpr (hallowed c hc)) hd

/-- Kept characters are a host, and the name they spell is written with the same characters. -/
theorem plainHost?_of_kept {cs : List Char} (hkept : ∀ c ∈ cs, Kept c) :
    plainHost? cs = some (.name (String.ofList cs)) := by
  have hallowed : ¬ cs.any isForbidden = true := by
    intro hany
    obtain ⟨c, hc, hforbidden⟩ := List.any_eq_true.mp hany
    rw [(hkept c hc).allowed] at hforbidden
    cases hforbidden
  have hsame : cs.flatMap encodeHostChar = cs := by
    rw [List.flatMap_congr fun c hc => encodeHostChar_of_kept (hkept c hc)]
    exact List.flatMap_singleton' cs
  unfold plainHost?
  split
  · exact absurd rfl ((hkept '[' List.mem_cons_self).ne (d := '[') (by decide))
  · rw [if_neg hallowed, hsame]

/-! ## Ports -/

/-- A number is the value of its decimal digits. -/
theorem foldl_toDigits (n : Nat) :
    (Nat.toDigits 10 n).foldl (fun n c => 10 * n + (c.toNat - 48)) 0 = n := by
  have h := Nat.ofDigitChars_ten_toDigits (n := n)
  rw [Nat.ofDigitChars_eq_foldl] at h
  exact h

/-- A port is read back from its decimal digits. -/
theorem port?_toDigits (p : UInt16) : port? (Nat.toDigits 10 p.toNat) = some (some p) := by
  have hdigits : ∀ c ∈ Nat.toDigits 10 p.toNat, c.isDigit = true :=
    fun c hc => Nat.isDigit_of_mem_toDigits (by decide) (by decide) hc
  have hfits : ¬ 65535 < p.toNat := by
    have := p.toNat_lt
    omega
  unfold port?
  rw [List.takeWhile_eq_self_iff.mpr hdigits, List.dropWhile_eq_nil_iff.mpr hdigits]
  dsimp only
  rw [foldl_toDigits, port?.value, if_neg hfits, if_neg, UInt16.ofNat_toNat]
  rw [List.isEmpty_iff]
  exact Nat.toDigits_ne_nil

/-- There is no port where something else than digits stands in the rest of an authority. -/
theorem port?_eq_none {cs : List Char} (hopen : ∀ c ∈ cs, endsAuthority true c = false)
    (hother : ∃ c ∈ cs, c.isDigit = false) : port? cs = none := by
  unfold port?
  dsimp only
  split
  · rename_i c rest heq
    have hc : c ∈ cs := by
      refine (List.dropWhile_suffix Char.isDigit).subset ?_
      rw [heq]
      exact List.mem_cons_self
    rw [hopen c hc]
    rfl
  · rename_i hnil
    obtain ⟨c, hc, hdigit⟩ := hother
    rw [List.dropWhile_eq_nil_iff.mp hnil c hc] at hdigit
    cases hdigit

/-! ## Authorities -/

theorem credentials?_of_not_mem {special : Bool} {cs : List Char} (h : '@' ∉ cs) :
    credentials? special cs = some (false, cs) := by
  have hfront : '@' ∉ cs.takeWhile fun c => !endsAuthority special c :=
    fun hmem => h (List.takeWhile_subset _ hmem)
  unfold credentials?
  exact if_neg hfront

/-- Kept characters in front of a colon are split off there. -/
theorem splitHost_append_colon {special : Bool} {front : List Char} (h : ∀ c ∈ front, Kept c)
    (rest : List Char) :
    splitHost special false (front ++ ':' :: rest) = (front, ':' :: rest) := by
  induction front with
  | nil => rfl
  | cons c front ih =>
      have hc := h c List.mem_cons_self
      have hcolon := beq_eq_false_iff_ne.mpr (hc.ne (d := ':') (by decide))
      have hopening := beq_eq_false_iff_ne.mpr (hc.ne (d := '[') (by decide))
      have hclosing := beq_eq_false_iff_ne.mpr (hc.ne (d := ']') (by decide))
      have hfront := ih fun d hd => h d (List.mem_cons_of_mem c hd)
      simp only [List.cons_append, splitHost, hcolon, hopening, hclosing, hc.not_endsAuthority,
        hfront, Bool.false_and, Bool.or_false, Bool.false_eq_true, if_false]

theorem not_mem_append_colon {name rest : List Char} (hname : ∀ c ∈ name, Kept c)
    (hat : '@' ∉ rest) :
    '@' ∉ name ++ ':' :: rest := by
  intro h
  rcases List.mem_append.mp h with h | h
  · exact (hname '@' h).ne (d := '@') (by decide) rfl
  · rcases List.mem_cons.mp h with h | h
    · exact absurd h (by decide)
    · exact hat h

/-- A name and a port behind its colon. -/
theorem authority?_append_colon (scheme : String) {name rest : List Char}
    (hname : ∀ c ∈ name, Kept c) (hne : name ≠ []) (hat : '@' ∉ rest) :
    authority? scheme none (name ++ ':' :: rest)
      = (port? rest).map fun port => ⟨scheme, some (.name (String.ofList name)), port⟩ := by
  have hfree := not_mem_append_colon hname hat
  have hfull : name.isEmpty = false := List.isEmpty_eq_false_iff.mpr hne
  unfold authority?
  simp only [credentials?_of_not_mem hfree, splitHost_append_colon hname, plainHost?_of_kept hname,
    hfull, Option.isSome_none, Option.bind_eq_bind, Option.bind_some, Bool.false_eq_true, if_false]
  cases port? rest with
  | none => rfl
  | some port => cases port <;> rfl

/-- A colon with nothing in front of it starts no authority. -/
theorem authority?_colon (scheme : String) {rest : List Char} (hat : '@' ∉ rest) :
    authority? scheme none (':' :: rest) = none := by
  have hfree : '@' ∉ [] ++ ':' :: rest :=
    not_mem_append_colon (fun c hc => absurd hc List.not_mem_nil) hat
  rw [List.nil_append] at hfree
  unfold authority?
  simp only [credentials?_of_not_mem hfree, Option.isSome_none]
  rfl

/-! ## Whole locators -/

/-- A text without blanks and control characters is read as it stands. -/
theorem clean_eq_self {cs : List Char} (h : ∀ c ∈ cs, 32 < c.toNat) : clean cs = cs := by
  have hbare : Text.Bare (fun c => c.toNat ≤ 32) cs := by
    apply Text.bare_of_forall
    intro c hc
    rw [decide_eq_false_iff_not, Nat.not_le]
    exact h c hc
  rw [clean, Text.trimBoth_eq_self_iff.mpr hbare, List.filter_eq_self]
  intro c hc
  have hvisible := h c hc
  have hne : ∀ d : Char, d.toNat ≤ 32 → (c != d) = true := by
    intro d hd
    rw [bne_iff_ne]
    rintro rfl
    omega
  rw [hne '\t' (by decide), hne '\n' (by decide), hne '\r' (by decide)]
  rfl

/-- What an authority gives: the scheme it was read for, and no host or the one its text names. -/
theorem authority?_cases {scheme : String} {own : Option UInt16} {cs : List Char} {l : Locator}
    (h : authority? scheme own cs = some l) :
    l.scheme = scheme ∧ (l.host = none ∨ ∃ text host, text ≠ [] ∧ l.host = some host
      ∧ (if own.isSome then specialHost? text else plainHost? text) = some host) := by
  unfold authority? at h
  obtain ⟨⟨credentials, left⟩, -, h⟩ := Option.bind_eq_some_iff.mp h
  dsimp only at h
  generalize splitHost own.isSome false left = parts at h
  obtain ⟨text, rest⟩ := parts
  dsimp only at h
  have hend : ∀ host port,
      (if text.isEmpty then (if credentials then none else some ⟨scheme, none, none⟩)
        else some ⟨scheme, some host, if port == own then none else port⟩) = some l
      → l.scheme = scheme ∧ (l.host = none ∨ text ≠ [] ∧ l.host = some host) := by
    intro host port h
    by_cases hempty : text.isEmpty = true
    · rw [if_pos hempty] at h
      split at h
      · cases h
      · obtain rfl := Option.some.inj h
        exact ⟨rfl, .inl rfl⟩
    · rw [if_neg hempty] at h
      obtain rfl := Option.some.inj h
      exact ⟨rfl, .inr ⟨mt List.isEmpty_iff.mpr hempty, rfl⟩⟩
  -- whichever kind of host is read, and whether a port follows or not, the end is the same
  have hread : ∃ host port, (if own.isSome then specialHost? text else plainHost? text) = some host
      ∧ (if text.isEmpty then (if credentials then none else some ⟨scheme, none, none⟩)
        else some ⟨scheme, some host, if port == own then none else port⟩) = some l := by
    by_cases hspecial : own.isSome = true
    all_goals
      simp only [hspecial, if_true, if_false, Bool.false_eq_true] at h ⊢
      obtain ⟨host, hhost, h⟩ := Option.bind_eq_some_iff.mp h
      split at h
      · split at h
        · cases h
        · rename_i hfull
          obtain ⟨port, -, h⟩ := Option.bind_eq_some_iff.mp h
          exact ⟨host, port, hhost, (if_neg hfull).trans h⟩
      · exact ⟨host, none, hhost, h⟩
  obtain ⟨host, port, hhost, h⟩ := hread
  obtain ⟨hscheme, hnone | ⟨hne, hsome⟩⟩ := hend host port h
  · exact ⟨hscheme, .inl hnone⟩
  · exact ⟨hscheme, .inr ⟨text, host, hne, hsome, hhost⟩⟩

theorem scheme_of_file? {scheme : String} {cs : List Char} {l : Locator}
    (h : file? scheme cs = some l) :
    l.scheme = scheme := by
  unfold file? at h
  dsimp only at h
  split at h
  · rcases ite_eq_iff.mp h with ⟨-, h⟩ | ⟨-, h⟩
    · rcases ite_eq_iff.mp h with ⟨-, h⟩ | ⟨-, h⟩
      · rw [← Option.some.inj h]
      · obtain ⟨host, -, rfl⟩ := Option.map_eq_some_iff.mp h
        rfl
    · rw [← Option.some.inj h]
  · rw [← Option.some.inj h]

/-- The host of a locator whose scheme is a plain one. -/
theorem plainHost_of_parse? {s : String} {l : Locator} (h : parse? s = some l)
    (hplain : kindOf l.scheme = .plain) {host : Host} (hhost : l.host = some host) :
    PlainHost host := by
  unfold parse? at h
  obtain ⟨⟨scheme, rest⟩, -, h⟩ := Option.bind_eq_some_iff.mp h
  dsimp only at h
  split at h
  · rename_i hkind
    rw [scheme_of_file? h, hkind] at hplain
    cases hplain
  · rename_i port hkind
    rw [(authority?_cases h).1, hkind] at hplain
    cases hplain
  · split at h
    · obtain ⟨-, hnone | ⟨text, host', hne, hsome, hread⟩⟩ := authority?_cases h
      · rw [hnone] at hhost
        cases hhost
      · rw [hsome] at hhost
        obtain rfl := Option.some.inj hhost
        exact plainHost_of_plainHost? hne hread
    · obtain rfl := Option.some.inj h
      cases hhost

end SocketStrategies.Locator
