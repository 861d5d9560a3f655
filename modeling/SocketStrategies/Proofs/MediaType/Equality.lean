import SocketStrategies.MediaType.Basic
import SocketStrategies.Proofs.Text.Caseless

/-!
# When media types count as equal

`sameFormat` and `equivalent` are given as tests on texts. Here they become equations: two media
types have the same format when their folded types and subtypes are equal texts, and they are
equivalent when the parameters are equal besides.

On bare media types, which carry no parameters and are in lower case already, equivalence is
equality. That is what lets a list of candidates be compared as a list of values. The formats with
a name of their own are in lower case as well, so the test tells them apart by their texts.
-/

namespace SocketStrategies.MediaType

/-! ## The same format -/

theorem sameFormat_iff {a b : MediaType} :
    a.sameFormat b = true ↔
      Text.lower a.mainType = Text.lower b.mainType
        ∧ Text.lower a.subtype = Text.lower b.subtype := by
  unfold sameFormat Text.sameCaseless
  rw [Bool.and_eq_true, beq_iff_eq, beq_iff_eq]

theorem sameFormat_refl (a : MediaType) : a.sameFormat a = true := sameFormat_iff.mpr ⟨rfl, rfl⟩

theorem sameFormat_comm (a b : MediaType) : a.sameFormat b = b.sameFormat a := by
  rw [Bool.eq_iff_iff, sameFormat_iff, sameFormat_iff, eq_comm (a := Text.lower a.mainType),
    eq_comm (a := Text.lower a.subtype)]

/-- Media types of the same format have the same format as whatever one of them has it with. -/
theorem sameFormat_congr {a b : MediaType} (h : a.sameFormat b = true) (c : MediaType) :
    a.sameFormat c = b.sameFormat c := by
  obtain ⟨hmain, hsub⟩ := sameFormat_iff.mp h
  rw [Bool.eq_iff_iff, sameFormat_iff, sameFormat_iff, hmain, hsub]

/-! ## Formats in lower case -/

/-- Type and subtype are in lower case. -/
def Folded (m : MediaType) : Prop :=
  Text.lower m.mainType = m.mainType ∧ Text.lower m.subtype = m.subtype

theorem sameFormat_of_folded {a b : MediaType} (ha : a.Folded) (hb : b.Folded) :
    a.sameFormat b = (a.mainType == b.mainType && a.subtype == b.subtype) := by
  obtain ⟨ham, has⟩ := ha
  obtain ⟨hbm, hbs⟩ := hb
  rw [sameFormat, Text.sameCaseless, Text.sameCaseless, ham, has, hbm, hbs]

theorem folded_textPlain : textPlain.Folded := ⟨Text.lower_eq_self rfl, Text.lower_eq_self rfl⟩

theorem folded_routing : routing.Folded := ⟨Text.lower_eq_self rfl, Text.lower_eq_self rfl⟩

theorem folded_compositeMetadata : compositeMetadata.Folded :=
  ⟨Text.lower_eq_self rfl, Text.lower_eq_self rfl⟩

/-! ## Equivalence -/

theorem equivalent_iff {a b : MediaType} :
    a.equivalent b = true ↔ a.sameFormat b = true ∧ a.parameters = b.parameters := by
  unfold equivalent
  rw [Bool.and_eq_true, beq_iff_eq]

theorem equivalent_refl (a : MediaType) : a.equivalent a = true :=
  equivalent_iff.mpr ⟨sameFormat_refl a, rfl⟩

theorem equivalent_symm {a b : MediaType} (h : a.equivalent b = true) : b.equivalent a = true := by
  obtain ⟨hf, hp⟩ := equivalent_iff.mp h
  exact equivalent_iff.mpr ⟨sameFormat_comm a b ▸ hf, hp.symm⟩

theorem equivalent_trans {a b c : MediaType} (hab : a.equivalent b = true)
    (hbc : b.equivalent c = true) : a.equivalent c = true := by
  obtain ⟨hab, hp⟩ := equivalent_iff.mp hab
  obtain ⟨hbc, hq⟩ := equivalent_iff.mp hbc
  obtain ⟨h1, h2⟩ := sameFormat_iff.mp hab
  obtain ⟨h3, h4⟩ := sameFormat_iff.mp hbc
  exact equivalent_iff.mpr ⟨sameFormat_iff.mpr ⟨h1.trans h3, h2.trans h4⟩, hp.trans hq⟩

/-! ## Bare media types -/

/-- Two formats are the same exactly when nothing is left to tell their bare forms apart. -/
theorem bare_eq_bare_iff {a b : MediaType} : a.bare = b.bare ↔ a.sameFormat b = true := by
  rw [sameFormat_iff]
  simp only [bare, make, verbatim, MediaType.mk.injEq, and_true]

theorem sameFormat_bare (a : MediaType) : a.bare.sameFormat a = true := by
  rw [sameFormat_iff]
  exact ⟨Text.lower_lower a.mainType, Text.lower_lower a.subtype⟩

theorem bare_bare (a : MediaType) : a.bare.bare = a.bare :=
  bare_eq_bare_iff.mpr (sameFormat_bare a)

/-- Bare media types are equivalent only to themselves. -/
theorem equivalent_bare_iff {a b : MediaType} :
    a.bare.equivalent b.bare = true ↔ a.bare = b.bare := by
  constructor
  · intro h
    have hf := (equivalent_iff.mp h).1
    rw [← bare_eq_bare_iff, bare_bare, bare_bare] at hf
    exact hf
  · intro h
    rw [h]
    exact equivalent_refl _

end SocketStrategies.MediaType
