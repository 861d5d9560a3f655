import Mathlib
import SocketStrategies.Proofs.Text.Trimming
import SocketStrategies.Proofs.Text.Utf8

/-!
# What folding leaves alone

Folding writes small letters and keeps everything else. So a folded text without small letters was
that text before it was folded, wildcards and punctuation among them, and a folded text starts and
ends with a blank exactly if the text did.
-/

namespace SocketStrategies.Text

/-- Folding leaves a character alone, or makes a small letter of a capital. -/
theorem toLower_cases (c : Char) :
    c.toLower = c ∨ c.isUpper = true ∧ c.toLower.isLower = true := by
  by_cases hc : c.isUpper = true
  · right
    rw [Char.isLower_toLower_eq_isAlpha, Char.isAlpha, hc, Bool.true_or]
    exact ⟨rfl, rfl⟩
  · left
    exact Char.toLower_eq_of_not_isUpper hc

/-- Only a small letter can come from another character. -/
theorem eq_of_toLower_eq {c d : Char} (h : c.toLower = d) (hd : d.isLower = false) : c = d := by
  rcases toLower_cases c with hc | ⟨-, hl⟩
  · exact hc.symm.trans h
  · rw [h, hd] at hl
    exact Bool.noConfusion hl

/-- A class without letters holds a character exactly if it holds what that is folded to. -/
theorem class_toLower {p : Char → Bool} (hupper : ∀ c, c.isUpper = true → p c = false)
    (hlower : ∀ c, c.isLower = true → p c = false) (c : Char) : p c.toLower = p c := by
  rcases toLower_cases c with hc | ⟨hu, hl⟩
  · rw [hc]
  · rw [hupper c hu, hlower _ hl]

theorem toList_lower (s : String) : (lower s).toList = s.toList.map Char.toLower :=
  String.toList_map

/-- Folding twice changes nothing more. -/
@[simp] theorem lower_lower (s : String) : lower (lower s) = lower s := by
  apply String.toList_injective
  rw [toList_lower, toList_lower, List.map_map]
  exact List.map_congr_left fun c _ => Char.toLower_toLower_eq_toLower c

/-- A text without capitals is left alone. -/
theorem lower_eq_self {s : String} (h : s.toList.map Char.toLower = s.toList) : lower s = s := by
  apply String.toList_injective
  rw [toList_lower, h]

theorem eq_of_lower_eq {s t : String} (h : lower s = t) (ht : ∀ c ∈ t.toList, c.isLower = false) :
    s = t := by
  apply String.toList_injective
  have hl := congrArg String.toList h
  rw [toList_lower] at hl
  rw [← hl] at ht ⊢
  have hid : ∀ c ∈ s.toList, c.toLower = c :=
    fun c hc => (eq_of_toLower_eq rfl (ht c.toLower (List.mem_map_of_mem hc))).symm
  rw [List.map_congr_left hid, List.map_id']

/-! ## Characters that are no letters -/

theorem mem_lower_iff {d : Char} (hupper : d.isUpper = false) (hlower : d.isLower = false)
    {s : String} :
    d ∈ (lower s).toList ↔ d ∈ s.toList := by
  rw [toList_lower, List.mem_map]
  constructor
  · rintro ⟨c, hc, h⟩
    exact eq_of_toLower_eq h hlower ▸ hc
  · intro h
    rcases toLower_cases d with hd | ⟨hu, -⟩
    · exact ⟨d, h, hd⟩
    · rw [hupper] at hu
      exact Bool.noConfusion hu

/-- Texts that are folded to the same hold the same characters besides letters. -/
theorem mem_of_map_toLower_eq {d : Char} (hupper : d.isUpper = false) (hlower : d.isLower = false)
    {cs cs' : List Char} (h : cs.map Char.toLower = cs'.map Char.toLower) (hd : d ∈ cs) :
    d ∈ cs' := by
  have hmem : d ∈ (lower (String.ofList cs)).toList := by
    rwa [mem_lower_iff hupper hlower, String.toList_ofList]
  rwa [toList_lower, String.toList_ofList, h, ← String.toList_ofList (l := cs'), ← toList_lower,
    mem_lower_iff hupper hlower, String.toList_ofList] at hmem

theorem lower_ofList_eq {cs cs' : List Char} (h : cs.map Char.toLower = cs'.map Char.toLower) :
    lower (String.ofList cs) = lower (String.ofList cs') := by
  apply String.toList_injective
  rw [toList_lower, toList_lower, String.toList_ofList, String.toList_ofList, h]

theorem bounds_of_isUpper {c : Char} (h : c.isUpper = true) : 65 ≤ c.toNat ∧ c.toNat ≤ 90 := by
  unfold Char.isUpper at h
  simp only [decide_eq_true_eq, ge_iff_le, UInt32.le_iff_toNat_le] at h
  exact h

theorem bounds_of_isLower {c : Char} (h : c.isLower = true) : 97 ≤ c.toNat ∧ c.toNat ≤ 122 := by
  unfold Char.isLower at h
  simp only [Bool.and_eq_true, decide_eq_true_eq, ge_iff_le, UInt32.le_iff_toNat_le] at h
  exact h

theorem isBlank_toLower (c : Char) : isBlank c.toLower = isBlank c := by
  refine class_toLower (fun c hc => ?_) (fun c hc => ?_) c
  · obtain ⟨h1, h2⟩ := bounds_of_isUpper hc
    simp only [isBlank, Bool.or_eq_false_iff, Bool.and_eq_false_iff, decide_eq_false_iff_not,
      beq_eq_false_iff_ne]
    omega
  · obtain ⟨h1, h2⟩ := bounds_of_isLower hc
    simp only [isBlank, Bool.or_eq_false_iff, Bool.and_eq_false_iff, decide_eq_false_iff_not,
      beq_eq_false_iff_ne]
    omega

theorem startsWith_map {p : Char → Bool} {f : Char → Char} (hf : ∀ c, p (f c) = p c)
    (cs : List Char) :
    StartsWith p (cs.map f) ↔ StartsWith p cs := by
  cases cs with
  | nil => rfl
  | cons c rest => rw [List.map_cons, startsWith_cons_iff, startsWith_cons_iff, hf]

theorem endsWith_map {p : Char → Bool} {f : Char → Char} (hf : ∀ c, p (f c) = p c)
    (cs : List Char) :
    EndsWith p (cs.map f) ↔ EndsWith p cs := by
  rw [endsWith_iff_reverse, endsWith_iff_reverse, ← List.map_reverse, startsWith_map hf]

theorem startsWith_lower (s : String) :
    StartsWith isBlank (lower s).toList ↔ StartsWith isBlank s.toList := by
  rw [toList_lower, startsWith_map isBlank_toLower]

theorem endsWith_lower (s : String) :
    EndsWith isBlank (lower s).toList ↔ EndsWith isBlank s.toList := by
  rw [toList_lower, endsWith_map isBlank_toLower]

end SocketStrategies.Text

namespace SocketStrategies.Utf8

/-- A letter takes one byte, small or not. -/
theorem width_map_toLower (cs : List Char) : width (cs.map Char.toLower) = width cs := by
  induction cs with
  | nil => rfl
  | cons c cs ih =>
      rw [List.map_cons]
      rcases Text.toLower_cases c with hsame | ⟨hupper, hlower⟩
      · rw [hsame, width_cons, width_cons, ih]
      · have hc : c.toNat < 128 :=
          Nat.lt_of_le_of_lt (Text.bounds_of_isUpper hupper).2 (by decide)
        have hl : c.toLower.toNat < 128 :=
          Nat.lt_of_le_of_lt (Text.bounds_of_isLower hlower).2 (by decide)
        rw [width_cons_of_lt hc, width_cons_of_lt hl, ih]

end SocketStrategies.Utf8
