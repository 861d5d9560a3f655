import SocketStrategies.Proofs.MediaType.RoundTrip

/-!
# What a media type covers

A media type with wildcards stands for all formats that it covers. `includes` is given as tests on
texts, which fold case here and look at the front or the end of a subtype there. On folded texts
they come to two things: the main types agree, or the first is the wildcard for all of them, and
`SubtypeCovers` holds of the subtypes.

A subtype covers itself, the wildcard covers all of them, and `*+json` covers those that end on
`+json`. What stands behind the last plus sign has none in it, so a subtype ends on one suffix at
most, and `*+a+b` covers only itself. From this alone it follows that covering is transitive, and
that two subtypes are comparable if they cover a third: the covered formats form a tree, with
`*/*` at the root.
-/

namespace SocketStrategies.MediaType

open Text (lower)

/-! ## Suffixes -/

/-- Whether a text ends on a suffix: this is what stands behind its last plus sign. -/
def EndsOn (cs suffix : List Char) : Prop := '+' ∉ suffix ∧ ∃ front, cs = front ++ '+' :: suffix

/-- Of two plus signs with none behind them, neither is further back. -/
theorem EndsOn.unique {cs s t : List Char} (hs : EndsOn cs s) (ht : EndsOn cs t) : s = t := by
  obtain ⟨hs, front, rfl⟩ := hs
  obtain ⟨ht, front', h⟩ := ht
  rcases List.append_eq_append_iff.mp h with ⟨between, -, hback⟩ | ⟨between, -, hback⟩
  · cases between with
    | nil => exact (List.cons.inj hback).2
    | cons c between =>
        refine absurd ?_ hs
        rw [(List.cons.inj hback).2]
        exact List.mem_append_right between List.mem_cons_self
  · cases between with
    | nil => exact (List.cons.inj hback).2.symm
    | cons c between =>
        refine absurd ?_ ht
        rw [(List.cons.inj hback).2]
        exact List.mem_append_right between List.mem_cons_self

theorem not_endsOn_star (s : List Char) : ¬ EndsOn ['*'] s := by
  rintro ⟨-, front, h⟩
  have hplus : '+' ∈ ['*'] := h ▸ List.mem_append_right front List.mem_cons_self
  simp at hplus

/-- What `*+json` asks for is its own suffix too. -/
theorem endsOn_wildcard {s : List Char} (h : '+' ∉ s) : EndsOn ('*' :: '+' :: s) s :=
  ⟨h, ['*'], rfl⟩

theorem suffix?_of_endsOn {m : MediaType} {s : List Char} (h : EndsOn m.subtype.toList s) :
    m.suffix? = some (String.ofList s) := by
  obtain ⟨hs, front, hcs⟩ := h
  have hmem : '+' ∈ m.subtype.toList := hcs ▸ List.mem_append_right front List.mem_cons_self
  have hall : ∀ c ∈ s.reverse, (c != '+') = true := by
    intro c hc
    rw [bne_iff_ne]
    rintro rfl
    exact hs (List.mem_reverse.mp hc)
  have hback : (m.subtype.toList.reverse.takeWhile (· != '+')).reverse = s := by
    rw [hcs, List.reverse_append, List.reverse_cons, List.append_assoc, List.singleton_append,
      List.takeWhile_append_of_pos hall, List.takeWhile_cons, bne_self_eq_false,
      if_neg Bool.false_ne_true, List.append_nil, List.reverse_reverse]
  unfold suffix?
  rw [if_pos hmem, hback]

/-- A subtype has a suffix as soon as it has a plus sign. -/
theorem suffix?_cases (m : MediaType) :
    m.suffix? = none ∨ ∃ s, m.suffix? = some (String.ofList s) ∧ EndsOn m.subtype.toList s := by
  by_cases h : '+' ∈ m.subtype.toList
  · obtain ⟨back, front, hcs, hback⟩ := List.eq_append_cons_of_mem (List.mem_reverse.mpr h)
    have hends : EndsOn m.subtype.toList back.reverse := by
      refine ⟨mt List.mem_reverse.mp hback, front.reverse, ?_⟩
      rw [← List.reverse_reverse m.subtype.toList, hcs, List.reverse_append, List.reverse_cons,
        List.append_assoc, List.singleton_append]
    exact Or.inr ⟨_, suffix?_of_endsOn hends, hends⟩
  · exact Or.inl (if_neg h)

theorem wildcardSuffix?_eq_some_iff {m : MediaType} {s : String} :
    m.wildcardSuffix? = some s ↔ m.subtype.toList = '*' :: '+' :: s.toList := by
  unfold wildcardSuffix?
  split
  · rename_i cs h
    rw [h, Option.some.injEq]
    constructor
    · rintro rfl
      rw [String.toList_ofList]
    · intro hs
      rw [(List.cons.inj (List.cons.inj hs).2).2, String.ofList_toList]
  · rename_i hno
    exact ⟨fun h => absurd h (by simp), fun h => absurd h (hno s.toList)⟩

/-! ## Folding -/

/-- The subtype with its capitals made small. -/
def foldedSubtype (m : MediaType) : List Char := (lower m.subtype).toList

theorem foldedSubtype_eq (m : MediaType) : m.foldedSubtype = m.subtype.toList.map Char.toLower :=
  Text.toList_lower m.subtype

theorem lower_eq_star_iff {s : String} : lower s = "*" ↔ s = "*" := by
  refine ⟨fun h => Text.eq_of_lower_eq h (by simp), ?_⟩
  rintro rfl
  exact Text.lower_eq_self rfl

theorem foldedSubtype_eq_star_iff {m : MediaType} : m.foldedSubtype = ['*'] ↔ m.subtype = "*" := by
  rw [← lower_eq_star_iff, ← String.toList_inj]
  rfl

/-- Neither the star nor the plus sign is a letter. -/
theorem foldedSubtype_eq_wildcard_iff {m : MediaType} {s : List Char} :
    m.foldedSubtype = '*' :: '+' :: s
      ↔ ∃ asked, m.wildcardSuffix? = some asked ∧ (lower asked).toList = s := by
  rw [foldedSubtype_eq]
  constructor
  · intro h
    obtain ⟨star, rest, hcs, hstar, h⟩ := List.map_eq_cons_iff.mp h
    obtain ⟨plus, back, rfl, hplus, rfl⟩ := List.map_eq_cons_iff.mp h
    obtain rfl : star = '*' := Text.eq_of_toLower_eq hstar rfl
    obtain rfl : plus = '+' := Text.eq_of_toLower_eq hplus rfl
    refine ⟨String.ofList back, wildcardSuffix?_eq_some_iff.mpr ?_, ?_⟩
    · rw [hcs, String.toList_ofList]
    · rw [Text.toList_lower, String.toList_ofList]
  · rintro ⟨asked, hasked, rfl⟩
    rw [wildcardSuffix?_eq_some_iff.mp hasked, Text.toList_lower]
    rfl

theorem mem_plus_map_toLower {cs : List Char} : '+' ∈ cs.map Char.toLower ↔ '+' ∈ cs := by
  have h := Text.mem_lower_iff (d := '+') rfl rfl (s := String.ofList cs)
  rw [Text.toList_lower, String.toList_ofList] at h
  exact h

theorem endsOn_foldedSubtype_iff {m : MediaType} {s : List Char} :
    EndsOn m.foldedSubtype s ↔ ∃ found, m.suffix? = some found ∧ (lower found).toList = s := by
  rw [foldedSubtype_eq]
  constructor
  · rintro ⟨hs, front, h⟩
    obtain ⟨front, back, hcs, -, hback⟩ := List.map_eq_append_iff.mp h
    obtain ⟨plus, back, rfl, hplus, rfl⟩ := List.map_eq_cons_iff.mp hback
    obtain rfl : plus = '+' := Text.eq_of_toLower_eq hplus rfl
    refine ⟨String.ofList back, suffix?_of_endsOn ⟨mt mem_plus_map_toLower.mpr hs, front, hcs⟩, ?_⟩
    rw [Text.toList_lower, String.toList_ofList]
  · rintro ⟨found, hfound, rfl⟩
    rcases suffix?_cases m with hnone | ⟨back, hsome, hback, front, hcs⟩
    · rw [hnone] at hfound
      cases hfound
    · obtain rfl : String.ofList back = found := Option.some.inj (hsome.symm.trans hfound)
      rw [Text.toList_lower, String.toList_ofList, hcs]
      exact ⟨mt mem_plus_map_toLower.mp hback, front.map Char.toLower, List.map_append⟩

/-! ## What subtypes cover -/

/-- Whether a subtype covers another, both in lower case. -/
inductive SubtypeCovers : List Char → List Char → Prop where
  | self (u : List Char) : SubtypeCovers u u
  | any (v : List Char) : SubtypeCovers ['*'] v
  | ofSuffix {s v : List Char} : EndsOn v s → SubtypeCovers ('*' :: '+' :: s) v

namespace SubtypeCovers

variable {u v w : List Char}

theorem trans (huv : SubtypeCovers u v) (hvw : SubtypeCovers v w) : SubtypeCovers u w := by
  cases huv with
  | self => exact hvw
  | any => exact .any w
  | ofSuffix hs =>
      cases hvw with
      | self => exact .ofSuffix hs
      | any => exact absurd hs (not_endsOn_star _)
      | ofSuffix ht =>
          -- the middle one ends on the suffix that it asks for
          obtain rfl := hs.unique (endsOn_wildcard ht.1)
          exact .ofSuffix ht

/-- Two subtypes that cover a third lie on one way to the root. -/
theorem comparable (huw : SubtypeCovers u w) (hvw : SubtypeCovers v w) :
    SubtypeCovers u v ∨ SubtypeCovers v u := by
  cases huw with
  | self => exact Or.inr hvw
  | any => exact Or.inl (.any v)
  | ofSuffix hs =>
      cases hvw with
      | self => exact Or.inl (.ofSuffix hs)
      | any => exact Or.inr (.any _)
      | ofSuffix ht =>
          obtain rfl := hs.unique ht
          exact Or.inl (.self _)

theorem antisymm (huv : SubtypeCovers u v) (hvu : SubtypeCovers v u) : u = v := by
  cases huv with
  | self => rfl
  | any =>
      cases hvu with
      | self | any => rfl
      | ofSuffix ht => exact absurd ht (not_endsOn_star _)
  | ofSuffix hs =>
      cases hvu with
      | self => rfl
      | any => exact absurd hs (not_endsOn_star _)
      | ofSuffix ht =>
          obtain rfl := ht.unique (endsOn_wildcard hs.1)
          rfl

end SubtypeCovers

theorem includesSuffix_iff {a b : MediaType} :
    includesSuffix a b = true
      ↔ ∃ s, a.foldedSubtype = '*' :: '+' :: s ∧ EndsOn b.foldedSubtype s := by
  simp only [foldedSubtype_eq_wildcard_iff, endsOn_foldedSubtype_iff]
  unfold includesSuffix
  split
  · rename_i asked found hasked hfound
    rw [Text.sameCaseless, beq_iff_eq, hasked, hfound]
    constructor
    · intro h
      exact ⟨_, ⟨asked, rfl, rfl⟩, found, rfl, congrArg String.toList h.symm⟩
    · rintro ⟨s, ⟨asked', hasked', rfl⟩, found', hfound', h⟩
      rw [Option.some.inj hasked', Option.some.inj hfound']
      exact String.toList_injective h.symm
  · rename_i hno
    refine ⟨fun h => absurd h Bool.false_ne_true, ?_⟩
    rintro ⟨s, ⟨asked, hasked, -⟩, found, hfound, -⟩
    exact absurd hfound (hno asked found hasked)

/-! ## What media types cover -/

variable {a b c : MediaType}

theorem sameFormat_iff_folded :
    a.sameFormat b = true ↔ lower a.mainType = lower b.mainType
      ∧ a.foldedSubtype = b.foldedSubtype := by
  rw [sameFormat_iff, foldedSubtype, foldedSubtype, String.toList_inj]

/-- **Inclusion without texts.** Everything is included in a wildcard type, and otherwise what has
the same main type and a subtype that is covered. -/
theorem includes_iff :
    a.includes b = true
      ↔ a.mainType = "*"
        ∨ lower a.mainType = lower b.mainType ∧ SubtypeCovers a.foldedSubtype b.foldedSubtype := by
  have hsub :
      (Text.sameCaseless a.subtype b.subtype || a.subtype == "*" || includesSuffix a b) = true
        ↔ SubtypeCovers a.foldedSubtype b.foldedSubtype := by
    rw [Bool.or_eq_true, Bool.or_eq_true, beq_iff_eq, Text.sameCaseless, beq_iff_eq,
      includesSuffix_iff, ← foldedSubtype_eq_star_iff, ← String.toList_inj]
    constructor
    · rintro ((h | h) | ⟨s, h, hs⟩)
      · rw [foldedSubtype, h]
        exact .self _
      · rw [h]
        exact .any _
      · rw [h]
        exact .ofSuffix hs
    · intro h
      generalize hu : a.foldedSubtype = u at h
      generalize hv : b.foldedSubtype = v at h
      cases h with
      | self => exact Or.inl (Or.inl (hu.trans hv.symm))
      | any => exact Or.inl (Or.inr rfl)
      | ofSuffix hs => exact Or.inr ⟨_, rfl, hs⟩
  unfold includes isWildcardType
  rw [Bool.or_eq_true, Bool.and_eq_true, beq_iff_eq, hsub, Text.sameCaseless, beq_iff_eq]

/-- Concrete media types have no wildcard in either place. -/
theorem isConcrete_iff :
    a.isConcrete = true
      ↔ lower a.mainType ≠ "*" ∧ a.foldedSubtype ≠ ['*']
        ∧ ∀ s, a.foldedSubtype ≠ '*' :: '+' :: s := by
  have hsuffix : a.wildcardSuffix?.isSome = false ↔ ∀ s, a.foldedSubtype ≠ '*' :: '+' :: s := by
    simp only [ne_eq, foldedSubtype_eq_wildcard_iff, not_exists, not_and]
    constructor
    · intro h s asked hasked
      rw [hasked] at h
      cases h
    · intro h
      cases hasked : a.wildcardSuffix? with
      | none => rfl
      | some asked => exact absurd rfl (h _ asked hasked)
  unfold isConcrete isWildcardType isWildcardSubtype
  rw [Bool.and_eq_true, Bool.not_eq_true', Bool.not_eq_true', Bool.or_eq_false_iff, hsuffix,
    beq_eq_false_iff_ne, beq_eq_false_iff_ne, ne_eq, ne_eq, ne_eq, ne_eq, lower_eq_star_iff,
    foldedSubtype_eq_star_iff]

/-- Whether a media type is concrete hangs on its format alone. -/
theorem isConcrete_congr (h : a.sameFormat b = true) : a.isConcrete = b.isConcrete := by
  obtain ⟨hmain, hsub⟩ := sameFormat_iff_folded.mp h
  rw [Bool.eq_iff_iff, isConcrete_iff, isConcrete_iff, hmain, hsub]

theorem includes_of_sameFormat (h : a.sameFormat b = true) : a.includes b = true := by
  obtain ⟨hmain, hsub⟩ := sameFormat_iff_folded.mp h
  rw [includes_iff, hsub]
  exact Or.inr ⟨hmain, .self _⟩

theorem includes_refl (a : MediaType) : a.includes a = true :=
  includes_of_sameFormat (sameFormat_refl a)

/-- A main type that agrees with the wildcard is the wildcard. -/
theorem mainType_eq_star (h : lower a.mainType = lower b.mainType) (hb : b.mainType = "*") :
    a.mainType = "*" := by
  rw [lower_eq_star_iff.mpr hb] at h
  exact lower_eq_star_iff.mp h

theorem includes_trans (hab : a.includes b = true) (hbc : b.includes c = true) :
    a.includes c = true := by
  rw [includes_iff] at *
  rcases hab with ha | ⟨hmain, hsub⟩
  · exact Or.inl ha
  · rcases hbc with hb | ⟨hmain', hsub'⟩
    · exact Or.inl (mainType_eq_star hmain hb)
    · exact Or.inr ⟨hmain.trans hmain', hsub.trans hsub'⟩

/-- Two media types that include a third are comparable. -/
theorem isCompatible_of_includes (hac : a.includes c = true) (hbc : b.includes c = true) :
    a.isCompatible b = true := by
  unfold isCompatible
  rw [Bool.or_eq_true]
  rw [includes_iff] at *
  rcases hac with ha | ⟨hmain, hsub⟩
  · exact Or.inl (Or.inl ha)
  · rcases hbc with hb | ⟨hmain', hsub'⟩
    · exact Or.inr (includes_iff.mpr (Or.inl hb))
    · rcases hsub.comparable hsub' with h | h
      · exact Or.inl (Or.inr ⟨hmain.trans hmain'.symm, h⟩)
      · exact Or.inr (includes_iff.mpr (Or.inr ⟨hmain'.trans hmain.symm, h⟩))

/-- Compatible media types are those that overlap. -/
theorem isCompatible_iff :
    a.isCompatible b = true ↔ ∃ m : MediaType, a.includes m = true ∧ b.includes m = true := by
  constructor
  · intro h
    unfold isCompatible at h
    rcases (Bool.or_eq_true _ _).mp h with h | h
    · exact ⟨b, h, includes_refl b⟩
    · exact ⟨a, includes_refl a, h⟩
  · rintro ⟨m, ha, hb⟩
    exact isCompatible_of_includes ha hb

theorem includes_iff_of_concrete (h : a.isConcrete = true) :
    a.includes b = true ↔ a.sameFormat b = true := by
  refine ⟨fun hab => ?_, includes_of_sameFormat⟩
  obtain ⟨hstar, hany, hsuffix⟩ := isConcrete_iff.mp h
  rcases includes_iff.mp hab with ha | ⟨hmain, hsub⟩
  · exact absurd (lower_eq_star_iff.mpr ha) hstar
  · refine sameFormat_iff_folded.mpr ⟨hmain, ?_⟩
    generalize hu : a.foldedSubtype = u at *
    cases hsub with
    | self => rfl
    | any => exact absurd rfl hany
    | ofSuffix _ => exact absurd rfl (hsuffix _)

/-- If the wildcard for all types stands only in `*/*`, media types that include each other
are of one format. -/
theorem sameFormat_of_includes (ha : a.mainType = "*" → a.subtype = "*")
    (hb : b.mainType = "*" → b.subtype = "*") (hab : a.includes b = true)
    (hba : b.includes a = true) :
    a.sameFormat b = true := by
  rw [sameFormat_iff_folded]
  rcases includes_iff.mp hab with hstar | ⟨hmain, hsub⟩
  · -- only the wildcard for all types includes another such
    have hstar' : b.mainType = "*" := by
      rcases includes_iff.mp hba with h | ⟨h, -⟩
      · exact h
      · exact mainType_eq_star h hstar
    rw [hstar, hstar', foldedSubtype_eq_star_iff.mpr (ha hstar),
      foldedSubtype_eq_star_iff.mpr (hb hstar')]
    exact ⟨rfl, rfl⟩
  · rcases includes_iff.mp hba with hstar | ⟨-, hsub'⟩
    · rw [foldedSubtype_eq_star_iff.mpr (hb hstar),
        foldedSubtype_eq_star_iff.mpr (ha (mainType_eq_star hmain hstar))]
      exact ⟨hmain, rfl⟩
    · exact ⟨hmain, hsub.antisymm hsub'⟩

/--
**Media types form a tree.** For any media types, with wildcards and capitals in any place:

* inclusion is reflexive and transitive, and does not look at parameters;
* a concrete media type includes exactly those of its own format;
* two media types are compatible exactly if they both include some third;
* media types that were read from texts and include each other are of one format.
-/
theorem includes_forms_tree (a b c : MediaType) :
    a.includes a = true
      ∧ (a.includes b = true → b.includes c = true → a.includes c = true)
      ∧ (∀ p q, includes { a with parameters := p } { b with parameters := q } = a.includes b)
      ∧ (a.isConcrete = true → (a.includes b = true ↔ a.sameFormat b = true))
      ∧ (a.isCompatible b = true ↔ ∃ m : MediaType, a.includes m = true ∧ b.includes m = true)
      ∧ ∀ s t, parse s = .ok a → parse t = .ok b → a.includes b = true → b.includes a = true →
          a.sameFormat b = true := by
  refine ⟨includes_refl a, includes_trans, fun p q => rfl, includes_iff_of_concrete,
    isCompatible_iff, ?_⟩
  intro s t ha hb
  obtain ⟨hplain, -⟩ := plain_of_parse ha
  obtain ⟨hplain', -⟩ := plain_of_parse hb
  exact sameFormat_of_includes hplain.wildcard hplain'.wildcard

end SocketStrategies.MediaType
