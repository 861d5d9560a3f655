import Mathlib.Data.List.Forall2
import SocketStrategies.MediaType.Parser
import SocketStrategies.Proofs.Dict
import SocketStrategies.Proofs.Text.Splitting
import SocketStrategies.Proofs.Text.Trimming

/-!
# What is read as a media type

The text of a media type is cut at semicolons, and each part is trimmed. `FormatOf` says which
first parts are read, and as what, and `ParameterOf` says so for the other parts that are not
blank. Reading goes by the two: a text is read exactly if each of its parts is, and the media type
is the format with the parameters set from left to right.
-/

namespace SocketStrategies.MediaType

open Text (trim trimBoth Bare)

/-- Whether a character is a double quote. -/
abbrev isQuote (c : Char) : Bool := c == '"'

/-- The first part of a text, and the media type that it stands for. -/
inductive FormatOf : List Char → MediaType → Prop where
  | star : FormatOf ['*'] (make "*" "*")
  | slash {mainType subtype : List Char} :
      mainType ≠ [] → subtype ≠ [] → '/' ∉ mainType → '/' ∉ subtype →
      (mainType = ['*'] → subtype = ['*']) →
      FormatOf (mainType ++ '/' :: subtype) (make (String.ofList mainType) (String.ofList subtype))

/-- Another part, and the name and the value that it gives. -/
inductive ParameterOf : List Char → String × String → Prop where
  | mk {name : List Char} (value : List Char) : '=' ∉ name →
      ParameterOf (name ++ '=' :: value)
        (String.ofList (trim name), String.ofList (trimBoth isQuote (trim value)))

/-- A media type with parameters set one after the other. -/
def withParameters (m : MediaType) (qs : List (String × String)) : MediaType :=
  qs.foldl (fun m q => m.withParameter q.1 q.2) m

theorem withParameters_eq (m : MediaType) (qs : List (String × String)) :
    m.withParameters qs
      = { m with
          parameters := (qs.map fun q => (Text.lower q.1, q.2)).foldl (fun d e => d.insert e.1 e.2)
            m.parameters } := by
  induction qs generalizing m with
  | nil => rfl
  | cons q qs ih =>
      rw [withParameters, List.foldl_cons, ← withParameters, ih]
      rfl

theorem parameters_of_formatOf {cs : List Char} {m : MediaType} (h : FormatOf cs m) :
    m.parameters = .empty := by
  cases h with
  | star => rfl
  | slash => rfl

/-! ## Cutting -/

theorem cut?_append {sep : Char} {a : List Char} (ha : sep ∉ a) (b : List Char) :
    cut? sep (a ++ sep :: b) = some (a, b) := by
  have hall : ∀ c ∈ a, (c != sep) = true := fun c hc => bne_iff_ne.mpr fun h => ha (h ▸ hc)
  rw [cut?, List.dropWhile_append_of_pos hall, List.takeWhile_append_of_pos hall,
    List.dropWhile_cons, List.takeWhile_cons, bne_self_eq_false, if_neg Bool.false_ne_true,
    if_neg Bool.false_ne_true, List.append_nil]

theorem cut?_of_not_mem {sep : Char} {cs : List Char} (h : sep ∉ cs) : cut? sep cs = none := by
  have hall : ∀ c ∈ cs, (c != sep) = true := fun c hc => bne_iff_ne.mpr fun he => h (he ▸ hc)
  rw [cut?, ← List.append_nil cs, List.dropWhile_append_of_pos hall]
  rfl

/-- A text is cut at the first separator, if it holds one. -/
theorem cut?_cases (sep : Char) (cs : List Char) :
    cut? sep cs = none ∨ ∃ a b, cut? sep cs = some (a, b) ∧ cs = a ++ sep :: b ∧ sep ∉ a := by
  by_cases h : sep ∈ cs
  · obtain ⟨a, b, rfl, ha⟩ := List.eq_append_cons_of_mem h
    exact Or.inr ⟨a, b, cut?_append ha b, rfl, ha⟩
  · exact Or.inl (cut?_of_not_mem h)

/-! ## The parts of a text -/

/-- Around a slash stand the type and the subtype, which are looked at from left to right. -/
theorem parseFormat_slash {mainType : List Char} (h : '/' ∉ mainType) (subtype : List Char) :
    parseFormat (mainType ++ '/' :: subtype)
      = if mainType.isEmpty || subtype.isEmpty then .error .missingPart
        else if '/' ∈ subtype then .error .secondSlash
        else if mainType == ['*'] && subtype != ['*'] then .error .wildcardType
        else .ok (make (String.ofList mainType) (String.ofList subtype)) := by
  have hmem : '/' ∈ mainType ++ '/' :: subtype := List.mem_append_right mainType List.mem_cons_self
  have hne : (mainType ++ '/' :: subtype).isEmpty = false :=
    List.isEmpty_eq_false_iff.mpr (List.ne_nil_of_mem hmem)
  have hstar : (mainType ++ '/' :: subtype == ['*']) = false := by
    rw [beq_eq_false_iff_ne]
    intro h
    rw [h] at hmem
    exact absurd hmem (by decide)
  rw [parseFormat, hne, hstar, cut?_append h]
  rfl

theorem parseFormat_eq_ok_iff {cs : List Char} {m : MediaType} :
    parseFormat cs = .ok m ↔ FormatOf cs m := by
  constructor
  · intro h
    rcases cut?_cases '/' cs with hcut | ⟨mainType, subtype, -, rfl, hmain⟩
    · -- without a slash there is only the star
      unfold parseFormat at h
      by_cases hstar : cs = ['*']
      · subst hstar
        obtain rfl : make "*" "*" = m := Except.ok.inj h
        exact .star
      · rw [beq_eq_false_iff_ne.mpr hstar, hcut] at h
        split at h
        · cases h
        · cases h
    · rw [parseFormat_slash hmain] at h
      split at h
      · cases h
      · rename_i hempty
        split at h
        · cases h
        · rename_i hsub
          split at h
          · cases h
          · rename_i hwild
            obtain rfl := Except.ok.inj h
            rw [Bool.or_eq_true, not_or, List.isEmpty_iff, List.isEmpty_iff] at hempty
            rw [Bool.and_eq_true, beq_iff_eq, bne_iff_ne, not_and, not_not] at hwild
            exact .slash hempty.1 hempty.2 hmain hsub hwild
  · intro h
    cases h with
    | star => rfl
    | @slash mainType subtype hmain hsub hm hs hwild =>
        rw [parseFormat_slash hm, List.isEmpty_eq_false_iff.mpr hmain,
          List.isEmpty_eq_false_iff.mpr hsub, if_neg (by decide), if_neg hs, if_neg]
        rw [Bool.and_eq_true, beq_iff_eq, bne_iff_ne, not_and, not_not]
        exact hwild

theorem parseParameter_of_parameterOf {cs : List Char} {q : String × String} (h : ParameterOf cs q)
    (m : MediaType) : parseParameter m cs = .ok (m.withParameter q.1 q.2) := by
  cases h with
  | mk value hname => rw [parseParameter, cut?_append hname]

theorem parseParameter_eq_ok_iff {m m' : MediaType} {cs : List Char} :
    parseParameter m cs = .ok m' ↔ ∃ q, ParameterOf cs q ∧ m' = m.withParameter q.1 q.2 := by
  constructor
  · intro h
    rcases cut?_cases '=' cs with hcut | ⟨name, value, hcut, rfl, hname⟩
    · rw [parseParameter, hcut] at h
      cases h
    · have hq := ParameterOf.mk value hname
      rw [parseParameter_of_parameterOf hq] at h
      exact ⟨_, hq, (Except.ok.inj h).symm⟩
  · rintro ⟨q, hq, rfl⟩
    exact parseParameter_of_parameterOf hq m

/-- Parts are read from left to right, each into what those before it have made. -/
theorem foldlM_parseParameter_eq_ok_iff {parts : List (List Char)} {m m' : MediaType} :
    parts.foldlM parseParameter m = .ok m'
      ↔ ∃ qs, List.Forall₂ ParameterOf parts qs ∧ m' = m.withParameters qs := by
  induction parts generalizing m with
  | nil =>
      rw [List.foldlM_nil]
      constructor
      · intro h
        exact ⟨[], .nil, (Except.ok.inj h).symm⟩
      · rintro ⟨qs, hqs, rfl⟩
        cases hqs
        rfl
  | cons part parts ih =>
      rw [List.foldlM_cons]
      constructor
      · intro h
        cases hp : parseParameter m part with
        | error fault =>
            rw [hp] at h
            cases h
        | ok m₁ =>
            rw [hp] at h
            obtain ⟨q, hq, rfl⟩ := parseParameter_eq_ok_iff.mp hp
            obtain ⟨qs, hqs, rfl⟩ := ih.mp h
            exact ⟨q :: qs, .cons hq hqs, rfl⟩
      · rintro ⟨_, hqs, rfl⟩
        cases hqs with
        | cons hq hqs =>
            rw [parseParameter_of_parameterOf hq]
            exact ih.mpr ⟨_, hqs, rfl⟩

/-! ## A whole text -/

/-- The parts of a text, trimmed. -/
def trimmedParts (s : String) : List (List Char) := (s.toList.splitOn ';').map trim

/-- Parts are trimmed, and no semicolon is left in them. -/
theorem trimmedParts_spec {s : String} {part : List Char} (h : part ∈ trimmedParts s) :
    ';' ∉ part ∧ Bare Text.isBlank part := by
  obtain ⟨piece, hpiece, rfl⟩ := List.mem_map.mp h
  refine ⟨fun hmem => ?_, Text.bare_trimBoth _ piece⟩
  exact Text.not_mem_of_mem_splitOn hpiece (Text.mem_of_mem_trimBoth hmem)

/-- A text is a media type exactly if its first part is a format and every other part that is not
blank is a parameter. -/
theorem parse_eq_ok_iff {s : String} {m : MediaType} :
    parse s = .ok m ↔ ∃ format parts m₀ qs, trimmedParts s = format :: parts ∧ FormatOf format m₀
      ∧ List.Forall₂ ParameterOf (parts.filter (!·.isEmpty)) qs ∧ m = m₀.withParameters qs := by
  have hparse : parse s = .ok m ↔ parseChars s.toList = .ok m := by
    unfold parse
    cases parseChars s.toList with
    | ok m' => simp only [Except.mapError, Except.ok.injEq]
    | error fault => simp only [Except.mapError, reduceCtorEq]
  have htrimmed : (s.toList.splitOn ';').map trim = trimmedParts s := rfl
  rw [hparse, parseChars, htrimmed]
  cases hparts : trimmedParts s with
  | nil =>
      constructor
      · intro h
        cases h
      · rintro ⟨_, _, _, _, h, -⟩
        cases h
  | cons format parts =>
      dsimp only
      constructor
      · intro h
        cases hf : parseFormat format with
        | error fault =>
            rw [hf] at h
            cases h
        | ok m₀ =>
            rw [hf] at h
            obtain ⟨qs, hqs, rfl⟩ := foldlM_parseParameter_eq_ok_iff.mp h
            exact ⟨format, parts, m₀, qs, rfl, parseFormat_eq_ok_iff.mp hf, hqs, rfl⟩
      · rintro ⟨_, _, m₀, qs, h, hf, hqs, rfl⟩
        obtain ⟨rfl, rfl⟩ := List.cons.inj h
        rw [parseFormat_eq_ok_iff.mpr hf]
        exact foldlM_parseParameter_eq_ok_iff.mpr ⟨qs, hqs, rfl⟩

end SocketStrategies.MediaType
