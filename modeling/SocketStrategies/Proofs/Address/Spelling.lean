import Mathlib.Algebra.Group.Nat.Defs
import Mathlib.Data.List.Induction
import SocketStrategies.Proofs.Address.Ipv4
import SocketStrategies.Proofs.Address.Ipv6

/-!
# The spellings of an IPv6 address

An address has many texts: digits in either case, zeros in front of a group or not, two colons for
any run of zero groups, an IPv4 address for the last two groups. `Spells` is the grammar of these
texts, and they are what is read as the address, `ofChars?_eq_some_iff`. The canonical form is one
of them, so it is read back whichever of them an address was read from.

A gap is found by its two colons. That the first pair of colons is the gap hangs on groups: there
is no pair within them, and they do not end in a colon.
-/

namespace SocketStrategies.Ipv6

open Locator (Kept)

/-! ## The grammar -/

/-- Whether a character is the hexadecimal digit of a number, small or large. -/
def IsDigit (c : Char) (d : Nat) : Prop :=
  d < 16 ∧ (c = Nat.digitChar d ∨ c = (Nat.digitChar d).toUpper)

/-- What hexadecimal digits are the number of. -/
inductive IsNumber : List Char → Nat → Prop where
  | nil : IsNumber [] 0
  | snoc {cs : List Char} {c : Char} {n d : Nat} :
      IsNumber cs n → IsDigit c d → IsNumber (cs ++ [c]) (16 * n + d)

/-- One to four digits spell a group. -/
structure SpellsGroup (cs : List Char) (g : UInt16) : Prop where
  nonempty : cs ≠ []
  short : cs.length ≤ 4
  number : IsNumber cs g.toNat

/-- Groups with colons between them. At the end there may be an IPv4 address, if it is
permitted there. -/
inductive SpellsGroups : (quad : Bool) → List Char → List UInt16 → Prop where
  | group {quad : Bool} {cs : List Char} {g : UInt16} : SpellsGroup cs g → SpellsGroups quad cs [g]
  | quad (q : Ipv4) : SpellsGroups true q.render.toList (ofIpv4 q)
  | cons {quad : Bool} {cs rest : List Char} {g : UInt16} {gs : List UInt16} :
      SpellsGroup cs g → SpellsGroups quad rest gs →
      SpellsGroups quad (cs ++ ':' :: rest) (g :: gs)

/-- The groups on one side of a gap, of which there may be none. -/
inductive SpellsSide : (quad : Bool) → List Char → List UInt16 → Prop where
  | none {quad : Bool} : SpellsSide quad [] []
  | groups {quad : Bool} {cs : List Char} {gs : List UInt16} :
      SpellsGroups quad cs gs → SpellsSide quad cs gs

/-- The texts of an address: all eight groups, or two colons where groups of zero are left out. -/
inductive Spells (x : Ipv6) : List Char → Prop where
  | whole {cs : List Char} : SpellsGroups true cs x.groups → Spells x cs
  | gap {front back : List Char} {fs bs : List UInt16} {n : Nat} :
      SpellsSide false front fs → SpellsSide true back bs →
      x.groups = fs ++ List.replicate (n + 1) 0 ++ bs → Spells x (front ++ ':' :: ':' :: back)

/-! ## Digits and groups -/

instance (c : Char) (d : Nat) : Decidable (IsDigit c d) := inferInstanceAs (Decidable (_ ∧ _))

theorem toNat_lt_of_hexValue? {c : Char} {d : Nat} (h : hexValue? c = some d) : c.toNat < 103 := by
  unfold hexValue? at h
  split at h
  · rename_i hc
    have hbounds : 48 ≤ c.toNat ∧ c.toNat ≤ 57 := Char.isDigit_iff_toNat.mp hc
    omega
  · split at h
    · rename_i hc
      rw [Bool.and_eq_true, decide_eq_true_eq, decide_eq_true_eq] at hc
      exact Nat.lt_succ_of_le hc.2
    · split at h
      · rename_i hc
        rw [Bool.and_eq_true, decide_eq_true_eq, decide_eq_true_eq] at hc
        exact Nat.lt_of_le_of_lt hc.2 (by decide)
      · cases h

theorem hexValue?_eq_some_iff {c : Char} {d : Nat} : hexValue? c = some d ↔ IsDigit c d := by
  constructor
  · intro h
    have hall : ∀ n < 103, ∀ d ∈ hexValue? (Char.ofNat n), IsDigit (Char.ofNat n) d := by decide
    have hread := hall c.toNat (toNat_lt_of_hexValue? h)
    rw [Char.ofNat_toNat] at hread
    exact hread d h
  · rintro ⟨hd, rfl | rfl⟩
    · have hall : ∀ d < 16, hexValue? (Nat.digitChar d) = some d := by decide
      exact hall d hd
    · have hall : ∀ d < 16, hexValue? (Nat.digitChar d).toUpper = some d := by decide
      exact hall d hd

theorem IsDigit.kept {c : Char} {d : Nat} (h : IsDigit c d) : Kept c := by
  obtain ⟨hd, rfl | rfl⟩ := h
  · exact Locator.kept_digitChar d hd
  · exact Locator.kept_hexDigit d hd

theorem IsNumber.isDigit {cs : List Char} {n : Nat} (h : IsNumber cs n) {c : Char} (hc : c ∈ cs) :
    ∃ d, IsDigit c d := by
  induction h with
  | nil => cases hc
  | snoc _ hd ih =>
      rcases List.mem_append.mp hc with hc | hc
      · exact ih hc
      · rw [List.mem_singleton.mp hc]
        exact ⟨_, hd⟩

theorem IsNumber.lt {cs : List Char} {n : Nat} (h : IsNumber cs n) : n < 16 ^ cs.length := by
  induction h with
  | nil => exact Nat.one_pos
  | snoc _ hd ih =>
      have hlt := hd.1
      rw [List.length_append, List.length_singleton, Nat.pow_succ]
      omega

/-- What the reader makes of digits. -/
theorem isNumber_iff {cs : List Char} {n : Nat} :
    IsNumber cs n ↔ (cs.mapM hexValue?).map (fun ds => ds.foldl (fun n d => 16 * n + d) 0)
      = some n := by
  constructor
  · intro h
    induction h with
    | nil => rfl
    | snoc _ hd ih =>
        obtain ⟨ds, hds, rfl⟩ := Option.map_eq_some_iff.mp ih
        rw [List.mapM_append, hds]
        simp only [List.mapM_cons, List.mapM_nil, hexValue?_eq_some_iff.mpr hd, Option.pure_def,
          Option.bind_eq_bind, Option.bind_some, Option.map_some, List.foldl_append,
          List.foldl_cons, List.foldl_nil]
  · intro h
    induction cs using List.reverseRecOn generalizing n with
    | nil => cases h; exact .nil
    | append_singleton cs c ih =>
        obtain ⟨all, hall, rfl⟩ := Option.map_eq_some_iff.mp h
        rw [List.mapM_append] at hall
        obtain ⟨ds, hds, hall⟩ := Option.bind_eq_some_iff.mp hall
        obtain ⟨last, hlast, hall⟩ := Option.bind_eq_some_iff.mp hall
        rw [List.mapM_cons] at hlast
        obtain ⟨d, hd, hlast⟩ := Option.bind_eq_some_iff.mp hlast
        cases hlast
        cases hall
        rw [List.foldl_append]
        exact .snoc (ih (by rw [hds]; rfl)) (hexValue?_eq_some_iff.mp hd)

theorem IsNumber.lt_of_length_le {cs : List Char} {n : Nat} (h : IsNumber cs n)
    (hlen : cs.length ≤ 4) :
    n < 65536 :=
  Nat.lt_of_lt_of_le h.lt (Nat.pow_le_pow_right (by decide) hlen)

theorem group?_eq_some_iff {cs : List Char} {g : UInt16} :
    group? cs = some g ↔ SpellsGroup cs g := by
  have hread :
      (cs.mapM hexValue?).map (fun ds => UInt16.ofNat (ds.foldl (fun n d => 16 * n + d) 0))
        = ((cs.mapM hexValue?).map fun ds => ds.foldl (fun n d => 16 * n + d) 0).map
            UInt16.ofNat :=
    (Option.map_map UInt16.ofNat _ _).symm
  unfold group?
  rw [Option.ite_none_left_eq_some, hread, Option.map_eq_some_iff]
  simp only [Bool.or_eq_true, decide_eq_true_eq, List.isEmpty_iff, not_or, Nat.not_lt,
    ← isNumber_iff]
  constructor
  · rintro ⟨⟨hne, hlen⟩, n, hn, rfl⟩
    refine ⟨hne, hlen, ?_⟩
    rw [UInt16.toNat_ofNat_of_lt' (hn.lt_of_length_le hlen)]
    exact hn
  · rintro ⟨hne, hlen, hn⟩
    exact ⟨⟨hne, hlen⟩, g.toNat, hn, UInt16.ofNat_toNat⟩

section Characters

variable {quad : Bool} {cs : List Char} {g : UInt16} {gs : List UInt16}

theorem SpellsGroup.kept (h : SpellsGroup cs g) {c : Char} (hc : c ∈ cs) : Kept c := by
  obtain ⟨d, hd⟩ := h.number.isDigit hc
  exact hd.kept

theorem SpellsGroup.colon_not_mem (h : SpellsGroup cs g) : ':' ∉ cs :=
  fun hc => (h.kept hc).ne (d := ':') (by decide) rfl

theorem SpellsGroups.colon_or_kept (h : SpellsGroups quad cs gs) {c : Char} (hc : c ∈ cs) :
    c = ':' ∨ Kept c := by
  induction h with
  | group hg => exact .inr (hg.kept hc)
  | quad q => exact .inr (Ipv4.kept_of_mem_render hc)
  | cons hg _ ih =>
      rcases List.mem_append.mp hc with hc | hc
      · exact .inr (hg.kept hc)
      · rcases List.mem_cons.mp hc with hc | hc
        · exact .inl hc
        · exact ih hc

theorem SpellsSide.colon_or_kept (h : SpellsSide quad cs gs) {c : Char} (hc : c ∈ cs) :
    c = ':' ∨ Kept c := by
  cases h with
  | none => cases hc
  | groups h => exact h.colon_or_kept hc

theorem Spells.colon_or_kept {x : Ipv6} (h : Spells x cs) {c : Char} (hc : c ∈ cs) :
    c = ':' ∨ Kept c := by
  cases h with
  | whole h => exact h.colon_or_kept hc
  | gap hf hb _ =>
      rcases List.mem_append.mp hc with hc | hc
      · exact hf.colon_or_kept hc
      · rcases List.mem_cons.mp hc with hc | hc
        · exact .inl hc
        · rcases List.mem_cons.mp hc with hc | hc
          · exact .inl hc
          · exact hb.colon_or_kept hc

/-- Groups start with a character that is no colon. -/
theorem SpellsGroups.head?_ne_colon (h : SpellsGroups quad cs gs) : cs.head? ≠ some ':' := by
  cases h with
  | group hg => exact fun hhead => hg.colon_not_mem (List.mem_of_head? hhead)
  | quad q => exact fun hhead => q.colon_not_mem_render (List.mem_of_head? hhead)
  | cons hg _ =>
      rw [List.head?_append_of_ne_nil _ hg.nonempty]
      exact fun hhead => hg.colon_not_mem (List.mem_of_head? hhead)

theorem SpellsGroups.ne_nil (h : SpellsGroups quad cs gs) : cs ≠ [] := by
  cases h with
  | group hg => exact hg.nonempty
  | quad q => exact q.render_ne_nil
  | cons hg _ => exact List.append_ne_nil_of_left_ne_nil hg.nonempty _

end Characters

/-! ## Fields -/

/-- An IPv4 address is no group. -/
theorem group?_render_ipv4 (q : Ipv4) : group? q.render.toList = none := by
  cases hread : group? q.render.toList with
  | none => rfl
  | some g =>
      -- a dot is no digit
      have hdot : '.' ∈ q.render.toList := by
        rw [Ipv4.toList_render]
        exact List.mem_append_right _ List.mem_cons_self
      obtain ⟨d, hd, hchar⟩ := (group?_eq_some_iff.mp hread).number.isDigit hdot
      have hnone : ∀ d < 16, ¬ ('.' = Nat.digitChar d ∨ '.' = (Nat.digitChar d).toUpper) := by
        decide
      exact absurd hchar (hnone d hd)

theorem fields?_of_spells {quad : Bool} {cs : List Char} {gs : List UInt16}
    (h : SpellsGroups quad cs gs) :
    fields? quad (cs.splitOn ':') = some gs := by
  induction h with
  | group hg =>
      rw [List.splitOn_eq_singleton hg.colon_not_mem, fields?, group?_eq_some_iff.mpr hg]
  | quad q =>
      rw [List.splitOn_eq_singleton q.colon_not_mem_render, fields?, group?_render_ipv4,
        Ipv4.ofChars?_eq_some_iff.mpr rfl]
      rfl
  | @cons quad cs rest g gs hg _ ih =>
      rw [List.splitOn_append_cons_self_of_not_mem hg.colon_not_mem]
      cases hsplit : rest.splitOn ':' with
      | nil => exact absurd hsplit (List.splitOn_ne_nil ':' rest)
      | cons next pieces =>
          rw [hsplit] at ih
          rw [fields?, group?_eq_some_iff.mpr hg, ih]
          · rfl
          · exact List.cons_ne_nil _ _

theorem spells_of_fields? {quad : Bool} {pieces : List (List Char)} {gs : List UInt16}
    (hne : pieces ≠ [])
    (h : fields? quad pieces = some gs) : SpellsGroups quad ([':'].intercalate pieces) gs := by
  induction pieces generalizing gs with
  | nil => exact absurd rfl hne
  | cons piece pieces ih =>
      cases pieces with
      | nil =>
          rw [List.intercalate_singleton]
          rw [fields?] at h
          split at h
          · rename_i g hg
            cases h
            exact .group (group?_eq_some_iff.mp hg)
          · split at h
            · rename_i hquad
              obtain ⟨q, hq, rfl⟩ := Option.map_eq_some_iff.mp h
              rw [Ipv4.ofChars?_eq_some_iff.mp hq, hquad]
              exact .quad q
            · cases h
      | cons next pieces =>
          rw [List.intercalate_cons_cons, List.append_assoc, List.singleton_append]
          rw [fields?] at h
          · obtain ⟨g, hg, h⟩ := Option.bind_eq_some_iff.mp h
            obtain ⟨rest, hrest, h⟩ := Option.bind_eq_some_iff.mp h
            cases h
            exact .cons (group?_eq_some_iff.mp hg) (ih (List.cons_ne_nil _ _) hrest)
          · exact List.cons_ne_nil _ _

theorem fields?_eq_some_iff {quad : Bool} {cs : List Char} {gs : List UInt16} :
    fields? quad (cs.splitOn ':') = some gs ↔ SpellsGroups quad cs gs := by
  constructor
  · intro h
    have hspells := spells_of_fields? (List.splitOn_ne_nil ':' cs) h
    rw [List.intercalate_splitOn] at hspells
    exact hspells
  · exact fields?_of_spells

theorem part?_eq_some_iff {quad : Bool} {cs : List Char} {gs : List UInt16} :
    part? quad cs = some gs ↔ SpellsSide quad cs gs := by
  unfold part?
  split
  · rename_i hempty
    rw [List.isEmpty_iff] at hempty
    rw [hempty, Option.some.injEq]
    constructor
    · rintro rfl
      exact .none
    · intro h
      cases h with
      | none => rfl
      | groups h => exact absurd rfl h.ne_nil
  · rename_i hfull
    rw [fields?_eq_some_iff]
    constructor
    · exact .groups
    · intro h
      cases h with
      | none => exact absurd rfl hfull
      | groups h => exact h

/-! ## The gap -/

theorem cutGap?_cons {c : Char} {cs : List Char} (h : c ≠ ':' ∨ cs.head? ≠ some ':') :
    cutGap? (c :: cs) = (cutGap? cs).map fun r => (c :: r.1, r.2) := by
  rw [cutGap?]
  rintro rest rfl rfl
  rcases h with h | h
  · exact h rfl
  · exact h rfl

theorem cutGap?_append_of_not_mem {cs : List Char} (h : ':' ∉ cs) (rest : List Char) :
    cutGap? (cs ++ rest) = (cutGap? rest).map fun r => (cs ++ r.1, r.2) := by
  induction cs with
  | nil => exact (congrFun Option.map_id (cutGap? rest)).symm
  | cons c cs ih =>
      obtain ⟨hc, hcs⟩ := not_or.mp (mt List.mem_cons.mpr h)
      rw [List.cons_append, cutGap?_cons (.inl (Ne.symm hc)), ih hcs, Option.map_map]
      rfl

/-- Groups are passed over in search of the gap. -/
theorem SpellsGroups.cutGap?_append {quad : Bool} {cs : List Char} {gs : List UInt16}
    (h : SpellsGroups quad cs gs) (rest : List Char) :
    cutGap? (cs ++ rest) = (cutGap? rest).map fun r => (cs ++ r.1, r.2) := by
  induction h with
  | group hg => exact cutGap?_append_of_not_mem hg.colon_not_mem rest
  | quad q => exact cutGap?_append_of_not_mem q.colon_not_mem_render rest
  | @cons _ cs back _ _ hg hgs ih =>
      have hhead : (back ++ rest).head? ≠ some ':' := by
        rw [List.head?_append_of_ne_nil _ hgs.ne_nil]
        exact hgs.head?_ne_colon
      rw [List.append_assoc, List.cons_append, cutGap?_append_of_not_mem hg.colon_not_mem,
        cutGap?_cons (.inr hhead), ih, Option.map_map, Option.map_map]
      simp only [List.append_assoc, List.cons_append, Function.comp_def]

theorem SpellsGroups.cutGap?_eq_none {quad : Bool} {cs : List Char} {gs : List UInt16}
    (h : SpellsGroups quad cs gs) : cutGap? cs = none := by
  have hcut := h.cutGap?_append []
  rw [List.append_nil] at hcut
  exact hcut

theorem SpellsSide.cutGap?_append {quad : Bool} {front : List Char} {gs : List UInt16}
    (h : SpellsSide quad front gs) (back : List Char) :
    cutGap? (front ++ ':' :: ':' :: back) = some (front, back) := by
  cases h with
  | none => rfl
  | groups h =>
      rw [h.cutGap?_append, cutGap?, Option.map_some, List.append_nil]

theorem eq_of_cutGap? {cs front back : List Char} (h : cutGap? cs = some (front, back)) :
    cs = front ++ ':' :: ':' :: back := by
  induction cs using cutGap?.induct generalizing front with
  | case1 => cases h
  | case2 rest => cases h; rfl
  | case3 c rest hgap ih =>
      rw [cutGap?] at h
      · obtain ⟨⟨f, b⟩, hcut, h⟩ := Option.map_eq_some_iff.mp h
        cases h
        rw [ih hcut]
        rfl
      · exact hgap

/-! ## Reading -/

theorem ofGroups?_eq_some_iff {gs : List UInt16} {x : Ipv6} :
    ofGroups? gs = some x ↔ gs = x.groups := by
  unfold ofGroups?
  constructor
  · intro h
    split at h
    · cases h; rfl
    · cases h
  · rintro rfl
    exact dif_pos x.length_eq

/-- The groups on both sides of a gap and at least one of zero. -/
theorem exists_gap_iff {x : Ipv6} {fs bs : List UInt16} :
    (∃ n, x.groups = fs ++ List.replicate (n + 1) 0 ++ bs)
      ↔ fs.length + bs.length ≤ 7
        ∧ fs ++ List.replicate (8 - (fs.length + bs.length)) 0 ++ bs = x.groups := by
  constructor
  · rintro ⟨n, hx⟩
    have hlen := congrArg List.length hx
    rw [x.length_eq, List.length_append, List.length_append, List.length_replicate] at hlen
    have hn : 8 - (fs.length + bs.length) = n + 1 := by omega
    rw [hn]
    exact ⟨by omega, hx.symm⟩
  · rintro ⟨hle, hx⟩
    refine ⟨7 - (fs.length + bs.length), ?_⟩
    rw [← hx]
    congr 3
    omega

/-- An address is read from its spellings and from nothing else. -/
theorem ofChars?_eq_some_iff {cs : List Char} {x : Ipv6} : ofChars? cs = some x ↔ Spells x cs := by
  constructor
  · intro h
    unfold ofChars? at h
    split at h
    · obtain ⟨gs, hgs, h⟩ := Option.bind_eq_some_iff.mp h
      rw [ofGroups?_eq_some_iff] at h
      rw [fields?_eq_some_iff, h] at hgs
      exact .whole hgs
    · rename_i front back hcut
      obtain ⟨fs, hfs, h⟩ := Option.bind_eq_some_iff.mp h
      obtain ⟨bs, hbs, h⟩ := Option.bind_eq_some_iff.mp h
      rw [part?_eq_some_iff] at hfs hbs
      split at h
      · rename_i hle
        obtain ⟨n, hx⟩ := exists_gap_iff.mpr ⟨hle, ofGroups?_eq_some_iff.mp h⟩
        rw [eq_of_cutGap? hcut]
        exact .gap hfs hbs hx
      · cases h
  · intro h
    unfold ofChars?
    cases h with
    | whole h =>
        rw [h.cutGap?_eq_none]
        dsimp only
        rw [fields?_eq_some_iff.mpr h, Option.bind_some, ofGroups?_eq_some_iff]
    | @gap front back fs bs n hf hb hx =>
        obtain ⟨hle, hx⟩ := exists_gap_iff.mp ⟨n, hx⟩
        rw [hf.cutGap?_append]
        simp only [part?_eq_some_iff.mpr hf, part?_eq_some_iff.mpr hb, Option.bind_eq_bind,
          Option.bind_some, if_pos hle]
        exact ofGroups?_eq_some_iff.mpr hx

/-! ## The canonical form -/

theorem isNumber_toDigits (n : Nat) : IsNumber (Nat.toDigits 16 n) n := by
  have hdigit : ∀ d < 16, IsDigit (Nat.digitChar d) d := fun d hd => ⟨hd, .inl rfl⟩
  induction n using Nat.strongRecOn with
  | ind n ih =>
      rcases Nat.lt_or_ge n 16 with hlt | hge
      · rw [Nat.toDigits_of_lt_base hlt]
        have hsnoc := IsNumber.snoc .nil (hdigit n hlt)
        rw [Nat.mul_zero, Nat.zero_add] at hsnoc
        exact hsnoc
      · have hsnoc := IsNumber.snoc (ih (n / 16) (Nat.div_lt_self (by omega) (by decide)))
          (hdigit (n % 16) (Nat.mod_lt n (by decide)))
        rw [Nat.div_add_mod] at hsnoc
        rw [Nat.toDigits_of_base_le (by decide) hge]
        exact hsnoc

theorem spellsGroup_toDigits (g : UInt16) : SpellsGroup (Nat.toDigits 16 g.toNat) g := by
  refine ⟨Nat.toDigits_ne_nil, ?_, isNumber_toDigits _⟩
  rw [Nat.length_toDigits_le_iff (by decide) (by decide)]
  exact g.toNat_lt

theorem spellsGroups_renderGroups {quad : Bool} {gs : List UInt16} (hne : gs ≠ []) :
    SpellsGroups quad (renderGroups gs).toList gs := by
  induction gs with
  | nil => exact absurd rfl hne
  | cons g gs ih =>
      cases gs with
      | nil =>
          rw [toList_renderGroups_singleton]
          exact .group (spellsGroup_toDigits g)
      | cons h gs =>
          rw [toList_renderGroups_cons]
          exact .cons (spellsGroup_toDigits g) (ih (List.cons_ne_nil h gs))

theorem spellsSide_renderGroups (quad : Bool) (gs : List UInt16) :
    SpellsSide quad (renderGroups gs).toList gs := by
  cases gs with
  | nil => exact .none
  | cons g gs => exact .groups (spellsGroups_renderGroups (List.cons_ne_nil g gs))

/-- The groups of a run, as far as it is taken, are zero. -/
theorem take_eq_replicate {gs : List UInt16} {n : Nat} (h : n ≤ zeroRun gs) :
    gs.take n = List.replicate n 0 := by
  have htake : gs.take n = (gs.takeWhile (· == 0)).take n := by
    rw [List.prefix_iff_eq_take.mp (List.takeWhile_prefix (· == 0)), List.take_take]
    exact congrArg (gs.take ·) (Nat.min_eq_left h).symm
  rw [htake, List.eq_replicate_iff, List.length_take]
  refine ⟨Nat.min_eq_left h, fun g hg => ?_⟩
  have hzero := List.mem_takeWhile_imp (List.mem_of_mem_take hg)
  exact eq_of_beq hzero

/-- At the start of the longest run there is a run of its length. -/
theorem longestRun_le (gs : List UInt16) :
    (longestRun gs).2 ≤ zeroRun (gs.drop (longestRun gs).1) := by
  -- this holds of the best run so far, whatever starts are looked at
  refine List.foldlRecOn (motive := fun best : Nat × Nat => best.2 ≤ zeroRun (gs.drop best.1)) _ _
    (Nat.zero_le _) ?_
  intro best hbest i _
  dsimp only
  split
  · exact Nat.le_refl _
  · exact hbest

/-- The canonical form of an address is one of its spellings. -/
theorem spells_render (x : Ipv6) : Spells x x.render.toList := by
  have hrun := longestRun_le x.groups
  unfold render
  generalize longestRun x.groups = run at hrun ⊢
  obtain ⟨start, n⟩ := run
  dsimp only at hrun ⊢
  split
  · refine .whole (spellsGroups_renderGroups ?_)
    intro hnil
    have hlen := x.length_eq
    rw [hnil] at hlen
    cases hlen
  · rename_i hlong
    rw [String.toList_append, String.toList_append, List.append_assoc]
    refine .gap (n := n - 1) (spellsSide_renderGroups _ _) (spellsSide_renderGroups _ _) ?_
    rw [Nat.sub_add_cancel (by omega), ← take_eq_replicate hrun, List.append_assoc,
      ← List.drop_drop, List.take_append_drop, List.take_append_drop]

/-- The canonical form is read back. -/
theorem ofChars?_render (x : Ipv6) : ofChars? x.render.toList = some x :=
  ofChars?_eq_some_iff.mpr (spells_render x)

end SocketStrategies.Ipv6
