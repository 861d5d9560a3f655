import SocketStrategies.Proofs.MediaType.Reading
import SocketStrategies.Proofs.Text.Caseless

/-!
# What the parts of a media type bind

A part with an equals sign binds a name to a value. What it binds can be read off the part as it
stands: blanks around it are blanks around the name or around the value, and these do not count
either. A text is read exactly if its first part is a format and each other part is blank or has
an equals sign, and the parameters are the bindings made from left to right. So of the bindings of
a name the last one decides.
-/

namespace SocketStrategies.MediaType

open Text (trim trimBoth)

/-- The name and the value that a part binds, if it has an equals sign. The name is without blanks
around it and in lower case, the value without blanks and then without quotes around it. -/
def binding? (part : List Char) : Option (String × String) :=
  (cut? '=' part).map fun c =>
    (Text.lower (String.ofList (trim c.1)), String.ofList (trimBoth isQuote (trim c.2)))

/-- The name that a part binds. -/
def boundName? (part : List Char) : Option String := (binding? part).map (·.1)

/-- Whether a part after the first one is read: it is blank, or it binds a name. -/
def Readable (part : List Char) : Prop := trim part = [] ∨ '=' ∈ part

/-- Whether a text is made of blanks. -/
abbrev AllBlank (cs : List Char) : Prop := ∀ c ∈ cs, Text.isBlank c = true

variable {part name front back : List Char}

theorem binding?_append (h : '=' ∉ name) (value : List Char) :
    binding? (name ++ '=' :: value)
      = some (Text.lower (String.ofList (trim name)),
        String.ofList (trimBoth isQuote (trim value))) := by
  rw [binding?, cut?_append h]
  rfl

theorem binding?_of_not_mem (h : '=' ∉ part) : binding? part = none := by
  rw [binding?, cut?_of_not_mem h]
  rfl

theorem equals_not_mem_of_blank (h : AllBlank part) : '=' ∉ part :=
  fun hmem => absurd (h '=' hmem) (by decide)

theorem readable_append_equals (name value : List Char) : Readable (name ++ '=' :: value) :=
  .inr (List.mem_append_right name List.mem_cons_self)

/-- Blanks around a part do not count. -/
theorem binding?_within_blanks (hfront : AllBlank front) (hback : AllBlank back)
    (part : List Char) :
    binding? (front ++ (part ++ back)) = binding? part := by
  by_cases h : '=' ∈ part
  · obtain ⟨name, value, rfl, hname⟩ := List.eq_append_cons_of_mem h
    have hname' : '=' ∉ front ++ name := by
      intro hmem
      rcases List.mem_append.mp hmem with hmem | hmem
      · exact equals_not_mem_of_blank hfront hmem
      · exact hname hmem
    have happend : front ++ (name ++ '=' :: value ++ back)
        = (front ++ name) ++ '=' :: (value ++ back) := by
      rw [List.append_assoc, List.append_assoc, List.cons_append]
    rw [happend, binding?_append hname', binding?_append hname]
    simp only [trim, Text.trimBoth_append_left hfront, Text.trimBoth_append_right hback]
  · have h' : '=' ∉ front ++ (part ++ back) := by
      intro hmem
      rcases List.mem_append.mp hmem with hmem | hmem
      · exact equals_not_mem_of_blank hfront hmem
      rcases List.mem_append.mp hmem with hmem | hmem
      · exact h hmem
      · exact equals_not_mem_of_blank hback hmem
    rw [binding?_of_not_mem h, binding?_of_not_mem h']

theorem binding?_trim (part : List Char) : binding? (trim part) = binding? part := by
  obtain ⟨front, back, hpart, hfront, hback⟩ := Text.exists_trimBoth Text.isBlank part
  have h := binding?_within_blanks hfront hback (trim part)
  rw [trim, ← hpart] at h
  exact h.symm

theorem equals_mem_trim_iff : '=' ∈ trim part ↔ '=' ∈ part := by
  constructor
  · exact Text.mem_of_mem_trimBoth
  · intro h
    obtain ⟨front, back, hpart, hfront, hback⟩ := Text.exists_trimBoth Text.isBlank part
    rw [hpart] at h
    rcases List.mem_append.mp h with h | h
    · exact absurd h (equals_not_mem_of_blank hfront)
    rcases List.mem_append.mp h with h | h
    · exact h
    · exact absurd h (equals_not_mem_of_blank hback)

/-! ## Parts as parameters -/

/-- A binding as it is made. -/
abbrev folded (q : String × String) : String × String := (Text.lower q.1, q.2)

theorem binding?_of_parameterOf {q : String × String} (h : ParameterOf (trim part) q) :
    '=' ∈ part ∧ binding? part = some (folded q) := by
  rw [← equals_mem_trim_iff, ← binding?_trim]
  generalize trim part = cs at h
  cases h with
  | @mk name value hname =>
      exact ⟨List.mem_append_right name List.mem_cons_self, binding?_append hname value⟩

theorem exists_parameterOf (h : '=' ∈ part) : ∃ q, ParameterOf (trim part) q := by
  rw [← equals_mem_trim_iff] at h
  obtain ⟨name, value, hpart, hname⟩ := List.eq_append_cons_of_mem h
  rw [hpart]
  exact ⟨_, .mk value hname⟩

/-- The parts that are trimmed and not blank. -/
abbrev legible (parts : List (List Char)) : List (List Char) :=
  (parts.map trim).filter (!·.isEmpty)

theorem legible_cons_of_blank (h : trim part = []) (parts : List (List Char)) :
    legible (part :: parts) = legible parts := by
  rw [legible, List.map_cons, h, List.filter_cons_of_neg (by decide)]

theorem legible_cons_of_not_blank (h : trim part ≠ []) (parts : List (List Char)) :
    legible (part :: parts) = trim part :: legible parts := by
  rw [legible, List.map_cons, List.filter_cons_of_pos]
  rw [List.isEmpty_eq_false_iff.mpr h]
  rfl

/-- A blank part binds nothing. -/
theorem binding?_of_blank (h : trim part = []) : binding? part = none := by
  rw [← binding?_trim, h]
  rfl

theorem bindings_of_parameters {parts : List (List Char)} {qs : List (String × String)}
    (h : List.Forall₂ ParameterOf (legible parts) qs) :
    (∀ part ∈ parts, Readable part) ∧ parts.filterMap binding? = qs.map folded := by
  induction parts generalizing qs with
  | nil =>
      cases h
      exact ⟨fun _ hpart => absurd hpart List.not_mem_nil, rfl⟩
  | cons part parts ih =>
      by_cases hblank : trim part = []
      · rw [legible_cons_of_blank hblank] at h
        obtain ⟨hparts, hbindings⟩ := ih h
        rw [List.filterMap_cons_none (binding?_of_blank hblank)]
        exact ⟨List.forall_mem_cons.mpr ⟨.inl hblank, hparts⟩, hbindings⟩
      · rw [legible_cons_of_not_blank hblank] at h
        cases h with
        | cons hq hqs =>
            obtain ⟨hmem, hbinding⟩ := binding?_of_parameterOf hq
            obtain ⟨hparts, hbindings⟩ := ih hqs
            rw [List.filterMap_cons_some hbinding, hbindings, List.map_cons]
            exact ⟨List.forall_mem_cons.mpr ⟨.inr hmem, hparts⟩, rfl⟩

theorem exists_parameters {parts : List (List Char)} (h : ∀ part ∈ parts, Readable part) :
    ∃ qs, List.Forall₂ ParameterOf (legible parts) qs := by
  induction parts with
  | nil => exact ⟨[], .nil⟩
  | cons part parts ih =>
      obtain ⟨hpart, hparts⟩ := List.forall_mem_cons.mp h
      obtain ⟨qs, hqs⟩ := ih hparts
      by_cases hblank : trim part = []
      · rw [legible_cons_of_blank hblank]
        exact ⟨qs, hqs⟩
      · obtain ⟨q, hq⟩ := exists_parameterOf (hpart.resolve_left hblank)
        rw [legible_cons_of_not_blank hblank]
        exact ⟨q :: qs, .cons hq hqs⟩

/-! ## Texts as bindings -/

/-- The pieces of a text between its semicolons. -/
def pieces (s : String) : List (List Char) := s.toList.splitOn ';'

/-- A format with the bindings of some parts. -/
def withBindings (m : MediaType) (parts : List (List Char)) : MediaType :=
  { m with parameters := Dict.ofList (parts.filterMap binding?) }

/-- Pieces of a text, and the media type that they are read as. -/
inductive ReadAs : List (List Char) → MediaType → Prop where
  | mk {format : List Char} {parts : List (List Char)} {m : MediaType} :
      FormatOf (trim format) m → (∀ part ∈ parts, Readable part) →
      ReadAs (format :: parts) (m.withBindings parts)

theorem withParameters_eq_withBindings {m : MediaType} {format : List Char}
    (hm : FormatOf format m)
    {parts : List (List Char)} {qs : List (String × String)}
    (h : parts.filterMap binding? = qs.map folded) :
    m.withParameters qs = m.withBindings parts := by
  rw [withParameters_eq, parameters_of_formatOf hm, withBindings, h]
  rfl

/-- **A text is read by its bindings.** -/
theorem parse_eq_ok_iff_readAs {s : String} {m : MediaType} :
    parse s = .ok m ↔ ReadAs (pieces s) m := by
  rw [parse_eq_ok_iff]
  constructor
  · rintro ⟨format, parts, m₀, qs, hparts, hformat, hqs, rfl⟩
    obtain ⟨format, parts, hpieces, rfl, rfl⟩ := List.map_eq_cons_iff.mp hparts
    obtain ⟨hreadable, hbindings⟩ := bindings_of_parameters hqs
    rw [pieces, hpieces, withParameters_eq_withBindings hformat hbindings]
    exact .mk hformat hreadable
  · intro h
    generalize hpieces : pieces s = ps at h
    cases h with
    | @mk format parts m₀ hformat hreadable =>
        obtain ⟨qs, hqs⟩ := exists_parameters hreadable
        refine ⟨trim format, parts.map trim, m₀, qs, ?_, hformat, hqs, ?_⟩
        · rw [trimmedParts, ← List.map_cons, ← hpieces]
          rfl
        · exact (withParameters_eq_withBindings hformat (bindings_of_parameters hqs).2).symm

/-- **The last binding of a name decides.** -/
theorem parameter?_of_last (m : MediaType) {before after : List (List Char)} (hname : '=' ∉ name)
    (value : List Char)
    (hafter : ∀ p ∈ after, boundName? p ≠ some (Text.lower (String.ofList (trim name)))) :
    (m.withBindings (before ++ (name ++ '=' :: value) :: after)).parameter?
        (String.ofList (trim name))
      = some (String.ofList (trimBoth isQuote (trim value))) := by
  have hnone : (after.filterMap binding?).reverse.lookup (Text.lower (String.ofList (trim name)))
      = none := by
    rw [List.lookup_eq_none_iff]
    intro e he
    obtain ⟨p, hp, hbinding⟩ := List.mem_filterMap.mp (List.mem_reverse.mp he)
    have hne := hafter p hp
    rw [boundName?, hbinding] at hne
    rw [bne_iff_ne]
    exact fun heq => hne (congrArg some heq.symm)
  rw [parameter?, withBindings, Dict.get?_ofList, List.filterMap_append,
    List.filterMap_cons_some (binding?_append hname value), List.reverse_append, List.reverse_cons,
    List.append_assoc, List.lookup_append, hnone, Option.none_or, List.singleton_append,
    List.lookup_cons_self]

end SocketStrategies.MediaType
