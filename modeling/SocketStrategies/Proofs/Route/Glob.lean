import SocketStrategies.Proofs.Text.Utf8
import SocketStrategies.Route.Matcher

/-!
# What a glob matches

A glob is filled in: each star by a run of any length, each question mark by exactly one element,
and everything else by itself. `Filled` says so over any alphabet, because a glob can be read in
two ways. Matching reads it byte by byte, and is `Filled` over bytes (`accepts_iff_filled`).
Whoever writes a glob reads it character by character.

The two readings agree on texts of ASCII characters, and for globs without question marks on all
texts. They part where a question mark meets a character of several bytes: it takes one of the
bytes, and the others have to be taken by the wildcards next to it. `FilledByWidth` says this in
characters, and `accepts_counts_bytes` proves that it is what matching comes to.
-/

namespace SocketStrategies.Glob

/-! ## Filling a glob in -/

/--
`Filled star one glob text`: the text is the glob with each `star` replaced by some run, each
`one` by exactly one element, and all other elements left as they are.
-/
inductive Filled {α : Type} (star one : α) : List α → List α → Prop where
  | done : Filled star one [] []
  | star {glob text : List α} (run : List α) :
      Filled star one glob text → Filled star one (star :: glob) (run ++ text)
  | one {glob text : List α} (a : α) :
      Filled star one glob text → Filled star one (one :: glob) (a :: text)
  | same {glob text : List α} {a : α} :
      a ≠ star → a ≠ one → Filled star one glob text → Filled star one (a :: glob) (a :: text)

section Filled

variable {α : Type} {star one a : α} {glob glob' text text' : List α}

theorem filled_nil_iff : Filled star one [] text ↔ text = [] := by
  constructor
  · intro h
    cases h
    rfl
  · rintro rfl
    exact .done

theorem filled_star_iff (hne : star ≠ one) :
    Filled star one (star :: glob) text
      ↔ ∃ run rest, text = run ++ rest ∧ Filled star one glob rest := by
  constructor
  · intro h
    cases h with
    | star run h => exact ⟨run, _, rfl, h⟩
    | one _ _ => exact absurd rfl hne
    | same hstar _ _ => exact absurd rfl hstar
  · rintro ⟨run, rest, rfl, h⟩
    exact .star run h

theorem filled_one_iff (hne : star ≠ one) :
    Filled star one (one :: glob) text ↔ ∃ a rest, text = a :: rest
      ∧ Filled star one glob rest := by
  constructor
  · intro h
    cases h with
    | star _ _ => exact absurd rfl hne
    | one a h => exact ⟨a, _, rfl, h⟩
    | same _ hone _ => exact absurd rfl hone
  · rintro ⟨a, rest, rfl, h⟩
    exact .one a h

theorem filled_same_iff (hstar : a ≠ star) (hone : a ≠ one) :
    Filled star one (a :: glob) text ↔ ∃ rest, text = a :: rest ∧ Filled star one glob rest := by
  constructor
  · intro h
    cases h with
    | star _ _ => exact absurd rfl hstar
    | one _ _ => exact absurd rfl hone
    | same _ _ h => exact ⟨_, rfl, h⟩
  · rintro ⟨rest, rfl, h⟩
    exact .same hstar hone h

/-- Every list fills itself in: a star can take a star, and a question mark a question mark. -/
theorem filled_self (glob : List α) : Filled star one glob glob := by
  induction glob with
  | nil => exact .done
  | cons a glob ih =>
      by_cases hstar : a = star
      · subst hstar
        exact .star [a] ih
      · by_cases hone : a = one
        · subst hone
          exact .one a ih
        · exact .same hstar hone ih

theorem Filled.append (h : Filled star one glob text) (h' : Filled star one glob' text') :
    Filled star one (glob ++ glob') (text ++ text') := by
  induction h with
  | done => exact h'
  | star run _ ih =>
      rw [List.append_assoc]
      exact .star run ih
  | one a _ ih => exact .one a ih
  | same hstar hone _ ih => exact .same hstar hone ih

/-- What fills a glob in of two parts falls into two parts. -/
theorem Filled.exists_append (h : Filled star one (glob ++ glob') text) :
    ∃ front back, text = front ++ back ∧ Filled star one glob front
      ∧ Filled star one glob' back := by
  induction glob generalizing text with
  | nil => exact ⟨[], text, rfl, .done, h⟩
  | cons a glob ih =>
      rw [List.cons_append] at h
      cases h with
      | star run h =>
          obtain ⟨front, back, rfl, hfront, hback⟩ := ih h
          exact ⟨run ++ front, back, (List.append_assoc ..).symm, .star run hfront, hback⟩
      | one a h =>
          obtain ⟨front, back, rfl, hfront, hback⟩ := ih h
          exact ⟨a :: front, back, rfl, .one a hfront, hback⟩
      | same hstar hone h =>
          obtain ⟨front, back, rfl, hfront, hback⟩ := ih h
          exact ⟨a :: front, back, rfl, .same hstar hone hfront, hback⟩

theorem filled_literal_iff (hstar : star ∉ glob) (hone : one ∉ glob) :
    Filled star one glob text ↔ text = glob := by
  constructor
  · intro h
    induction h with
    | done => rfl
    | star _ _ _ => exact absurd List.mem_cons_self hstar
    | one _ _ _ => exact absurd List.mem_cons_self hone
    | @same _ _ a _ _ _ ih =>
        rw [ih (fun h => hstar (List.mem_cons_of_mem a h))
          (fun h => hone (List.mem_cons_of_mem a h))]
  · rintro rfl
    exact filled_self _

/-- The lengths that wildcards next to each other can cover: one for each question mark, and any
more if there is a star. -/
structure Covers [DecidableEq α] (star one : α) (wilds : List α) (n : Nat) : Prop where
  least : wilds.count one ≤ n
  most : star ∉ wilds → n = wilds.count one

/-- Wildcards alone settle no more than a length. -/
theorem filled_wilds_iff [DecidableEq α] (hne : star ≠ one) {wilds : List α}
    (h : ∀ a ∈ wilds, a = star ∨ a = one) :
    Filled star one wilds text ↔ Covers star one wilds text.length := by
  induction wilds generalizing text with
  | nil =>
      rw [filled_nil_iff]
      constructor
      · rintro rfl
        exact ⟨Nat.le_refl 0, fun _ => rfl⟩
      · intro hcovers
        exact List.eq_nil_of_length_eq_zero (hcovers.most List.not_mem_nil)
  | cons a wilds ih =>
      have htail : ∀ rest, Filled star one wilds rest ↔ Covers star one wilds rest.length :=
        fun _ => ih fun b hb => h b (List.mem_cons_of_mem a hb)
      rcases h a List.mem_cons_self with rfl | rfl
      · rw [filled_star_iff hne]
        constructor
        · rintro ⟨run, rest, rfl, hrest⟩
          have hleast := ((htail rest).mp hrest).least
          refine ⟨?_, fun hstar => absurd List.mem_cons_self hstar⟩
          rw [List.count_cons_of_ne hne, List.length_append]
          omega
        · intro hcovers
          have hleast := hcovers.least
          rw [List.count_cons_of_ne hne] at hleast
          -- the star takes what the question marks leave over
          refine ⟨text.take (text.length - wilds.count one),
            text.drop (text.length - wilds.count one), (List.take_append_drop _ _).symm,
            (htail _).mpr ?_⟩
          rw [List.length_drop]
          exact ⟨by omega, fun _ => by omega⟩
      · rw [filled_one_iff hne]
        constructor
        · rintro ⟨b, rest, rfl, hrest⟩
          have hcovers := (htail rest).mp hrest
          refine ⟨?_, fun hstar => ?_⟩
          · rw [List.count_cons_self, List.length_cons]
            exact Nat.succ_le_succ hcovers.least
          · rw [List.count_cons_self, List.length_cons,
              hcovers.most (mt (List.mem_cons_of_mem _) hstar)]
        · intro hcovers
          have hleast := hcovers.least
          have hmost := hcovers.most
          rw [List.count_cons_self] at hleast hmost
          cases text with
          | nil => exact absurd hleast (Nat.not_succ_le_zero _)
          | cons b rest =>
              rw [List.length_cons] at hleast hmost
              refine ⟨b, rest, rfl, (htail rest).mpr ⟨by omega, fun hstar => ?_⟩⟩
              have hlength := hmost (List.not_mem_cons_of_ne_of_not_mem hne hstar)
              omega

end Filled

/-! ## Matching byte by byte -/

section Accepts

variable {glob text : Bytes} {g t : UInt8}

theorem star_ne_one : star ≠ one := by decide

theorem accepts_star (text : Bytes) :
    accepts (star :: glob) text
      = (List.range (text.length + 1)).any fun n => accepts glob (text.drop n) := by
  rw [accepts.eq_def]
  exact if_pos (beq_self_eq_true star)

theorem accepts_star_iff :
    accepts (star :: glob) text = true
      ↔ ∃ run rest, text = run ++ rest ∧ accepts glob rest = true := by
  rw [accepts_star, List.any_eq_true]
  constructor
  · rintro ⟨n, -, hrest⟩
    exact ⟨text.take n, text.drop n, (List.take_append_drop n text).symm, hrest⟩
  · rintro ⟨run, rest, rfl, hrest⟩
    refine ⟨run.length, List.mem_range.mpr ?_, ?_⟩
    · rw [List.length_append]
      omega
    · rwa [List.drop_left]

theorem accepts_cons_nil (hstar : g ≠ star) : accepts (g :: glob) [] = false := by
  unfold accepts
  exact if_neg (mt beq_iff_eq.mp hstar)

theorem accepts_cons_cons (hstar : g ≠ star) :
    accepts (g :: glob) (t :: text) = ((g == one || g == t) && accepts glob text) := by
  rw [accepts, if_neg (mt beq_iff_eq.mp hstar)]

theorem accepts_one : accepts (one :: glob) (t :: text) = accepts glob text := by
  rw [accepts_cons_cons star_ne_one.symm, beq_self_eq_true, Bool.true_or, Bool.true_and]

theorem accepts_same (hstar : g ≠ star) : accepts (g :: glob) (g :: text) = accepts glob text := by
  rw [accepts_cons_cons hstar, beq_self_eq_true, Bool.or_true, Bool.true_and]

theorem accepts_other (hstar : g ≠ star) (hone : g ≠ one) (hne : g ≠ t) :
    accepts (g :: glob) (t :: text) = false := by
  rw [accepts_cons_cons hstar, beq_eq_false_iff_ne.mpr hone, beq_eq_false_iff_ne.mpr hne,
    Bool.or_false, Bool.false_and]

/-- Matching is filling in with bytes. -/
theorem accepts_iff_filled : accepts glob text = true ↔ Filled star one glob text := by
  induction glob generalizing text with
  | nil => rw [accepts, List.isEmpty_iff, filled_nil_iff]
  | cons g glob ih =>
      by_cases hstar : g = star
      · rw [hstar, accepts_star_iff, filled_star_iff star_ne_one]
        simp only [ih]
      · by_cases hone : g = one
        · rw [hone, filled_one_iff star_ne_one]
          cases text with
          | nil => simp [accepts_cons_nil star_ne_one.symm]
          | cons t text =>
              rw [accepts_one, ih]
              constructor
              · intro h
                exact ⟨t, text, rfl, h⟩
              · rintro ⟨_, _, heq, h⟩
                obtain ⟨rfl, rfl⟩ := List.cons.inj heq
                exact h
        · rw [filled_same_iff hstar hone]
          cases text with
          | nil => simp [accepts_cons_nil hstar]
          | cons t text =>
              by_cases ht : g = t
              · rw [ht] at hstar ⊢
                simp [accepts_same hstar, ih]
              · simp [accepts_other hstar hone ht, Ne.symm ht]

end Accepts

/-! ## What the bytes come to in characters -/

/-- The text is the glob with runs of wildcards replaced by texts of a length that they cover,
counted in bytes, and all other characters left as they are. -/
inductive FilledByWidth : List Char → List Char → Prop where
  | done : FilledByWidth [] []
  | wild {wilds run glob text : List Char} :
      (∀ c ∈ wilds, c = '*' ∨ c = '?') → Covers '*' '?' wilds (Utf8.width run) →
      FilledByWidth glob text → FilledByWidth (wilds ++ glob) (run ++ text)
  | same {c : Char} {glob text : List Char} :
      c ≠ '*' → c ≠ '?' → FilledByWidth glob text → FilledByWidth (c :: glob) (c :: text)

theorem star_mem_flatMap_iff {cs : List Char} :
    star ∈ cs.flatMap String.utf8EncodeChar ↔ '*' ∈ cs :=
  Utf8.mem_flatMap_of_lt (c := '*') (by decide) cs

theorem one_mem_flatMap_iff {cs : List Char} : one ∈ cs.flatMap String.utf8EncodeChar ↔ '?' ∈ cs :=
  Utf8.mem_flatMap_of_lt (c := '?') (by decide) cs

theorem count_one_flatMap (cs : List Char) :
    (cs.flatMap String.utf8EncodeChar).count one = cs.count '?' :=
  Utf8.count_flatMap_of_lt (c := '?') (by decide) cs

theorem covers_flatMap_iff {wilds : List Char} {n : Nat} :
    Covers star one (wilds.flatMap String.utf8EncodeChar) n ↔ Covers '*' '?' wilds n := by
  constructor
  · rintro ⟨hleast, hmost⟩
    rw [count_one_flatMap] at hleast hmost
    rw [star_mem_flatMap_iff] at hmost
    exact ⟨hleast, hmost⟩
  · rintro ⟨hleast, hmost⟩
    rw [← count_one_flatMap] at hleast hmost
    rw [← star_mem_flatMap_iff] at hmost
    exact ⟨hleast, hmost⟩

/-- Wildcards are bytes of their own. -/
theorem filled_wildBytes_iff {wilds : List Char} (h : ∀ c ∈ wilds, c = '*' ∨ c = '?')
    {text : Bytes} :
    Filled star one (wilds.flatMap String.utf8EncodeChar) text
      ↔ Covers '*' '?' wilds text.length := by
  have hbytes : ∀ b ∈ wilds.flatMap String.utf8EncodeChar, b = star ∨ b = one := by
    intro b hb
    obtain ⟨c, hc, hbc⟩ := List.mem_flatMap.mp hb
    rcases h c hc with rfl | rfl
    · rw [Utf8.utf8EncodeChar_of_lt (by decide), List.mem_singleton] at hbc
      exact .inl hbc
    · rw [Utf8.utf8EncodeChar_of_lt (by decide), List.mem_singleton] at hbc
      exact .inr hbc
  rw [filled_wilds_iff star_ne_one hbytes, covers_flatMap_iff]

/-- The bytes of a text without wildcards stand for themselves. -/
theorem filled_plainBytes_iff {cs : List Char} (hstar : '*' ∉ cs) (hone : '?' ∉ cs)
    {text : Bytes} :
    Filled star one (cs.flatMap String.utf8EncodeChar) text
      ↔ text = cs.flatMap String.utf8EncodeChar :=
  filled_literal_iff (mt star_mem_flatMap_iff.mp hstar) (mt one_mem_flatMap_iff.mp hone)

theorem filled_charBytes_iff {c : Char} (hstar : c ≠ '*') (hone : c ≠ '?') {text : Bytes} :
    Filled star one (String.utf8EncodeChar c) text ↔ text = String.utf8EncodeChar c := by
  have hplain : Filled star one ([c].flatMap String.utf8EncodeChar) text
      ↔ text = [c].flatMap String.utf8EncodeChar :=
    filled_plainBytes_iff (mt List.mem_singleton.mp hstar.symm)
      (mt List.mem_singleton.mp hone.symm)
  rwa [List.flatMap_singleton] at hplain

theorem filled_of_filledByWidth {glob text : List Char} (h : FilledByWidth glob text) :
    Filled star one (glob.flatMap String.utf8EncodeChar) (text.flatMap String.utf8EncodeChar) := by
  induction h with
  | done => exact .done
  | wild hwilds hcovers _ ih =>
      rw [List.flatMap_append, List.flatMap_append]
      exact ((filled_wildBytes_iff hwilds).mpr hcovers).append ih
  | same hstar hone _ ih =>
      rw [List.flatMap_cons, List.flatMap_cons]
      exact ((filled_charBytes_iff hstar hone).mpr rfl).append ih

/-- Wildcards that stand next to each other are collected until a character of the glob comes. The
bytes taken by them end there, because a character of the text starts. -/
theorem filledByWidth_of_filled {glob wilds text : List Char} {x y : Bytes}
    (hwilds : ∀ c ∈ wilds, c = '*' ∨ c = '?')
    (hx : Filled star one (wilds.flatMap String.utf8EncodeChar) x)
    (hy : Filled star one (glob.flatMap String.utf8EncodeChar) y)
    (htext : text.flatMap String.utf8EncodeChar = x ++ y) :
    FilledByWidth (wilds ++ glob) text := by
  induction glob generalizing wilds text x y with
  | nil =>
      rw [filled_nil_iff.mp hy, List.append_nil] at htext
      rw [← htext, filled_wildBytes_iff hwilds] at hx
      rw [← List.append_nil text]
      exact .wild hwilds hx .done
  | cons c glob ih =>
      rw [List.flatMap_cons] at hy
      obtain ⟨bytes, y, rfl, hbytes, hrest⟩ := hy.exists_append
      by_cases hwild : c = '*' ∨ c = '?'
      · have hx' : Filled star one ((wilds ++ [c]).flatMap String.utf8EncodeChar)
            (x ++ bytes) := by
          rw [List.flatMap_append, List.flatMap_singleton]
          exact hx.append hbytes
        have hwilds' : ∀ d ∈ wilds ++ [c], d = '*' ∨ d = '?' := by
          intro d hd
          rcases List.mem_append.mp hd with hd | hd
          · exact hwilds d hd
          · rw [List.mem_singleton.mp hd]
            exact hwild
        rw [← List.append_assoc] at htext
        have hfilled := ih hwilds' hx' hrest htext
        rwa [List.append_assoc] at hfilled
      · obtain ⟨hstar, hone⟩ := not_or.mp hwild
        rw [filled_charBytes_iff hstar hone] at hbytes
        subst hbytes
        obtain ⟨b, rest, hc, hfirst⟩ := Utf8.exists_firstByte c
        have hcut : text.flatMap String.utf8EncodeChar = x ++ b :: (rest ++ y) := by
          rw [htext, hc, List.cons_append]
        obtain ⟨run, back, rfl, rfl, hback⟩ := Utf8.exists_append_of_flatMap hcut hfirst
        rw [← List.cons_append, ← hc] at hback
        obtain ⟨back, rfl, rfl⟩ := Utf8.exists_cons_of_flatMap hback
        have hback : FilledByWidth ([] ++ glob) back :=
          ih (fun d hd => absurd hd List.not_mem_nil) .done hrest rfl
        exact .wild hwilds ((filled_wildBytes_iff hwilds).mp hx) (.same hstar hone hback)

theorem filled_bytes_iff {glob text : List Char} :
    Filled star one (glob.flatMap String.utf8EncodeChar) (text.flatMap String.utf8EncodeChar)
      ↔ FilledByWidth glob text := by
  constructor
  · intro h
    have hnil : ∀ c ∈ ([] : List Char), c = '*' ∨ c = '?' := fun c hc => absurd hc List.not_mem_nil
    exact filledByWidth_of_filled hnil .done h rfl
  · exact filled_of_filledByWidth

/-! ## Where bytes and characters agree -/

/-- Whether it does not matter what is counted: nothing is, or every character is one byte. -/
def CountsAlike (glob text : List Char) : Prop := '?' ∉ glob ∨ ∀ c ∈ text, c.toNat < 128

theorem CountsAlike.of_append {glob glob' text text' : List Char}
    (h : CountsAlike (glob ++ glob') (text ++ text')) :
    CountsAlike glob text ∧ CountsAlike glob' text' := by
  rcases h with hone | hascii
  · rw [List.mem_append, not_or] at hone
    exact ⟨.inl hone.1, .inl hone.2⟩
  · exact ⟨.inr fun c hc => hascii c (List.mem_append_left text' hc),
      .inr fun c hc => hascii c (List.mem_append_right text hc)⟩

theorem CountsAlike.of_cons {c d : Char} {glob text : List Char}
    (h : CountsAlike (c :: glob) (d :: text)) :
    CountsAlike [c] [d] ∧ CountsAlike glob text := by
  have happend : CountsAlike ([c] ++ glob) ([d] ++ text) := h
  exact happend.of_append

theorem covers_width_iff {wilds run : List Char} (h : CountsAlike wilds run) :
    Covers '*' '?' wilds (Utf8.width run) ↔ Covers '*' '?' wilds run.length := by
  rcases h with hone | hascii
  · -- only whether anything is covered at all can matter
    have hzero : wilds.count '?' = 0 := List.count_eq_zero_of_not_mem hone
    have hwidth : Utf8.width run = 0 ↔ run.length = 0 := by
      constructor
      · intro hempty
        have hle := Utf8.length_le_width run
        omega
      · intro hempty
        rw [List.eq_nil_of_length_eq_zero hempty]
        rfl
    constructor
    · rintro ⟨-, hmost⟩
      rw [hzero, hwidth] at hmost
      exact ⟨by omega, fun hstar => (hmost hstar).trans hzero.symm⟩
    · rintro ⟨-, hmost⟩
      rw [hzero, ← hwidth] at hmost
      exact ⟨by omega, fun hstar => (hmost hstar).trans hzero.symm⟩
  · rw [Utf8.width_of_ascii hascii]

/-- Wildcards that are filled in with characters may be filled in with bytes instead. -/
theorem covers_iff_filled {wilds run : List Char} (hwilds : ∀ c ∈ wilds, c = '*' ∨ c = '?')
    (h : CountsAlike wilds run) :
    Covers '*' '?' wilds (Utf8.width run) ↔ Filled '*' '?' wilds run := by
  rw [covers_width_iff h, filled_wilds_iff (by decide) hwilds]

theorem FilledByWidth.cons_wild {c : Char} {run glob text : List Char} (hc : c = '*' ∨ c = '?')
    (halike : CountsAlike [c] run) (hrun : Filled '*' '?' [c] run) (h : FilledByWidth glob text) :
    FilledByWidth (c :: glob) (run ++ text) := by
  have hwilds : ∀ d ∈ [c], d = '*' ∨ d = '?' := by
    intro d hd
    rw [List.mem_singleton.mp hd]
    exact hc
  exact .wild hwilds ((covers_iff_filled hwilds halike).mpr hrun) h

theorem filledByWidth_iff_filled {glob text : List Char} (h : CountsAlike glob text) :
    FilledByWidth glob text ↔ Filled '*' '?' glob text := by
  constructor
  · intro hfilled
    induction hfilled with
    | done => exact .done
    | wild hwilds hcovers _ ih =>
        obtain ⟨hrun, htext⟩ := h.of_append
        exact ((covers_iff_filled hwilds hrun).mp hcovers).append (ih htext)
    | same hstar hone _ ih => exact .same hstar hone (ih h.of_cons.2)
  · intro hfilled
    induction hfilled with
    | done => exact .done
    | @star glob text run _ ih =>
        have halike : CountsAlike (['*'] ++ glob) (run ++ text) := h
        have hrun : Filled '*' '?' ['*'] (run ++ []) := .star run .done
        rw [List.append_nil] at hrun
        exact .cons_wild (.inl rfl) halike.of_append.1 hrun (ih halike.of_append.2)
    | one c _ ih => exact .cons_wild (.inr rfl) h.of_cons.1 (.one c .done) (ih h.of_cons.2)
    | same hstar hone _ ih => exact .same hstar hone (ih h.of_cons.2)

/-! ## Matching texts -/

theorem accepts_encode_iff {g s : String} :
    accepts (Utf8.encode g) (Utf8.encode s) = true ↔ FilledByWidth g.toList s.toList := by
  rw [accepts_iff_filled, Utf8.encode_eq_flatMap, Utf8.encode_eq_flatMap, filled_bytes_iff]

/-- Between texts without wildcards a question mark takes one byte, and so no character that has
more. -/
theorem accepts_between_iff {front back : List Char} (hfront : '*' ∉ front ∧ '?' ∉ front)
    (hback : '*' ∉ back ∧ '?' ∉ back) (c : Char) :
    accepts (Utf8.encode (String.ofList (front ++ '?' :: back)))
        (Utf8.encode (String.ofList (front ++ c :: back))) = true
      ↔ c.toNat < 128 := by
  have hone : String.utf8EncodeChar '?' = [one] := Utf8.utf8EncodeChar_of_lt (by decide)
  rw [accepts_iff_filled, Utf8.encode_ofList, Utf8.encode_ofList, List.flatMap_append,
    List.flatMap_append, List.flatMap_cons, List.flatMap_cons, hone, List.singleton_append,
    ← Utf8.length_utf8EncodeChar_eq_one_iff]
  constructor
  · intro h
    obtain ⟨x, y, hxy, hx, hy⟩ := h.exists_append
    rw [(filled_plainBytes_iff hfront.1 hfront.2).mp hx] at hxy
    obtain ⟨b, rest, rfl, hrest⟩ := (filled_one_iff star_ne_one).mp hy
    rw [(filled_plainBytes_iff hback.1 hback.2).mp hrest] at hxy
    have hlength := congrArg List.length (List.append_cancel_left hxy)
    rw [List.length_append, List.length_cons] at hlength
    omega
  · intro hlength
    obtain ⟨b, hb⟩ := List.length_eq_one_iff.mp hlength
    rw [hb]
    exact (filled_self _).append (.one b (filled_self _))

/-- All globs read a text character by character if and only if each of its characters is one
byte: else a glob of as many question marks as there are characters finds bytes left over. -/
theorem reads_characters_iff {s : String} :
    (∀ g : String, accepts (Utf8.encode g) (Utf8.encode s) = true
      ↔ Filled '*' '?' g.toList s.toList)
      ↔ ∀ c ∈ s.toList, c.toNat < 128 := by
  constructor
  · intro hall
    have hwilds : ∀ c ∈ List.replicate s.toList.length '?', c = '*' ∨ c = '?' := by
      intro c hc
      exact .inr (List.eq_of_mem_replicate hc)
    have hstar : '*' ∉ List.replicate s.toList.length '?' := by
      intro hmem
      exact absurd (List.eq_of_mem_replicate hmem) (by decide)
    have hfilled : Filled '*' '?' (List.replicate s.toList.length '?') s.toList := by
      rw [filled_wilds_iff (by decide) hwilds]
      have hcount : (List.replicate s.toList.length '?').count '?' = s.toList.length :=
        List.count_replicate_self
      exact ⟨Nat.le_of_eq hcount, fun _ => hcount.symm⟩
    have haccepts := hall (String.ofList (List.replicate s.toList.length '?'))
    rw [String.toList_ofList, accepts_iff_filled, Utf8.encode_ofList, Utf8.encode_eq_flatMap,
      filled_wildBytes_iff hwilds] at haccepts
    have hwidth := (haccepts.mpr hfilled).most hstar
    rw [List.count_replicate_self] at hwidth
    exact Utf8.ascii_of_width_eq hwidth
  · intro hascii g
    rw [accepts_encode_iff, filledByWidth_iff_filled (.inr hascii)]

/--
**A question mark is one byte, not one character.** For every glob and every text:

* the text matches if and only if it is the glob with runs of wildcards replaced by texts that
  have one byte for each question mark among them, and any number more if there is a star;
* if the glob has no question mark, the text matches if and only if it is the glob with each star
  replaced by some text;
* whatever the glob, the text matches if and only if it is the glob with each star replaced by
  some text and each question mark by one character: this is so exactly for the texts whose
  characters are all below 128.
-/
theorem accepts_counts_bytes (g s : String) :
    (accepts (Utf8.encode g) (Utf8.encode s) = true ↔ FilledByWidth g.toList s.toList)
      ∧ ('?' ∉ g.toList →
          (accepts (Utf8.encode g) (Utf8.encode s) = true ↔ Filled '*' '?' g.toList s.toList))
      ∧ ((∀ g' : String,
            accepts (Utf8.encode g') (Utf8.encode s) = true ↔ Filled '*' '?' g'.toList s.toList)
          ↔ ∀ c ∈ s.toList, c.toNat < 128) := by
  refine ⟨accepts_encode_iff, fun hone => ?_, reads_characters_iff⟩
  rw [accepts_encode_iff, filledByWidth_iff_filled (.inl hone)]

/-- A star takes a letter with an accent, and so do two question marks. Between two letters one
question mark takes another letter. -/
theorem accepts_accented :
    accepts (Utf8.encode "a*b") (Utf8.encode "aéb") = true
      ∧ accepts (Utf8.encode "a??b") (Utf8.encode "aéb") = true
      ∧ accepts (Utf8.encode "a?b") (Utf8.encode "aeb") = true := by
  have hwilds : ∀ c ∈ ['?', '?'], c = '*' ∨ c = '?' := by simp
  have hcovers : Covers '*' '?' ['?', '?'] (Utf8.width ['é']) := ⟨by decide, fun _ => by decide⟩
  have hend : FilledByWidth ['b'] ['b'] := .same (by decide) (by decide) .done
  refine ⟨?_, ?_, ?_⟩
  · rw [(accepts_counts_bytes "a*b" "aéb").2.1 (by decide)]
    exact .same (by decide) (by decide) (.star ['é'] (filled_self ['b']))
  · rw [(accepts_counts_bytes "a??b" "aéb").1]
    exact .same (by decide) (by decide) (.wild hwilds hcovers hend)
  · have hascii : ∀ c ∈ "aeb".toList, c.toNat < 128 := by simp
    rw [(accepts_counts_bytes "a?b" "aeb").2.2.mpr hascii]
    exact .same (by decide) (by decide) (.one 'e' (filled_self ['b']))

/-- Matching does not read characters: between two letters a question mark does not take a letter
with an accent. -/
theorem not_all_accept_characters :
    ¬ ∀ g s : String, accepts (Utf8.encode g) (Utf8.encode s) = true
      ↔ Filled '*' '?' g.toList s.toList := by
  intro hall
  have hfilled : Filled '*' '?' "a?b".toList "aéb".toList :=
    .same (by decide) (by decide) (.one 'é' (filled_self ['b']))
  have hfront : '*' ∉ ['a'] ∧ '?' ∉ ['a'] := by decide
  have hback : '*' ∉ ['b'] ∧ '?' ∉ ['b'] := by decide
  have hsmall := (accepts_between_iff hfront hback 'é').mp ((hall "a?b" "aéb").mpr hfilled)
  exact absurd hsmall (by decide)

end SocketStrategies.Glob
