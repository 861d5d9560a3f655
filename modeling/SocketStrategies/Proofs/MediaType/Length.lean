import SocketStrategies.Proofs.MediaType.RoundTrip
import SocketStrategies.Proofs.Text.Utf8

/-!
# How long a media type prints

What is read from a text is what is left of its parts: blanks and quotes are taken off, names are
folded, and of two parameters with the same name only one stays. None of that makes a part longer,
so a media type prints in no more bytes than it was read from.

There is one exception. A lone `*` is read as `*/*`, which is two bytes longer.
-/

namespace SocketStrategies.MediaType

open Text (trim trimBoth lower)
open Utf8 (width width_append width_cons_of_lt width_mono)

/-! ## Parts -/

/-- The bytes of parts, each with a semicolon in front of it. -/
def tailWidth (parts : List (List Char)) : Nat := width (parts.flatMap (';' :: ·))

theorem tailWidth_cons (part : List Char) (parts : List (List Char)) :
    tailWidth (part :: parts) = 1 + width part + tailWidth parts := by
  unfold tailWidth
  rw [List.flatMap_cons, List.cons_append, width_cons_of_lt (by decide), width_append]
  omega

theorem width_intercalate (first : List Char) (parts : List (List Char)) :
    width ([';'].intercalate (first :: parts)) = width first + tailWidth parts := by
  rw [intercalate_cons, width_append, tailWidth]

theorem width_trim_le (cs : List Char) : width (trim cs) ≤ width cs :=
  width_mono (Text.infix_trimBoth _ cs)

/-- Trimming parts and leaving out those that are blank makes them no longer. -/
theorem tailWidth_trimmed_le (parts : List (List Char)) :
    tailWidth ((parts.map trim).filter (!·.isEmpty)) ≤ tailWidth parts := by
  induction parts with
  | nil => exact Nat.le_refl _
  | cons part parts ih =>
      have htrim := width_trim_le part
      rw [List.map_cons, List.filter_cons, tailWidth_cons]
      split
      · rw [tailWidth_cons]
        omega
      · omega

/-! ## Parameters -/

/-- A parameter as it is printed. -/
def printed (q : String × String) : List Char := q.1.toList ++ '=' :: q.2.toList

/-- A parameter prints in no more bytes than the part that gives it. -/
theorem width_printed_le {part : List Char} {q : String × String} (h : ParameterOf part q) :
    width (printed (lower q.1, q.2)) ≤ width part := by
  cases h with
  | @mk name value hname =>
      have htrim := width_trim_le name
      have hvalue : width (trimBoth isQuote (trim value)) ≤ width value :=
        Nat.le_trans (width_mono (Text.infix_trimBoth _ _)) (width_trim_le value)
      simp only [printed, Text.toList_lower, String.toList_ofList, width_append,
        Utf8.width_map_toLower, width_cons_of_lt (c := '=') (by decide)]
      omega

/-- A binding adds its own bytes at most. -/
theorem tailWidth_insertEntry_le (name value : String) (es : List (String × String)) :
    tailWidth ((Dict.insertEntry name value es).map printed)
      ≤ 1 + width (printed (name, value)) + tailWidth (es.map printed) := by
  induction es with
  | nil => exact Nat.le_of_eq (tailWidth_cons (printed (name, value)) [])
  | cons e es ih =>
      unfold Dict.insertEntry
      split
      · exact Nat.le_of_eq (tailWidth_cons (printed (name, value)) _)
      · -- the older binding is gone
        rw [List.map_cons, List.map_cons, tailWidth_cons, tailWidth_cons]
        omega
      · rw [List.map_cons, List.map_cons, tailWidth_cons, tailWidth_cons]
        omega

theorem tailWidth_withParameters_le {parts : List (List Char)} {qs : List (String × String)}
    (h : List.Forall₂ ParameterOf parts qs) (m : MediaType) :
    tailWidth ((m.withParameters qs).parameters.toList.map printed)
      ≤ tailWidth (m.parameters.toList.map printed) + tailWidth parts := by
  induction h generalizing m with
  | nil => exact Nat.le_add_right _ _
  | @cons part q parts qs hq hqs ih =>
      have hlater := ih (m.withParameter q.1 q.2)
      have hfirst := tailWidth_insertEntry_le (lower q.1) q.2 m.parameters.toList
      have hprinted := width_printed_le hq
      change
        _ ≤ tailWidth ((Dict.insertEntry (lower q.1) q.2 m.parameters.toList).map printed) + _
        at hlater
      change
        tailWidth (((m.withParameter q.1 q.2).withParameters qs).parameters.toList.map printed) ≤ _
      rw [tailWidth_cons]
      omega

/-! ## Whole texts -/

/-- Whether the format of a text is spelt as a lone star. -/
def Shorthand (s : String) : Prop := ∃ parts, trimmedParts s = ['*'] :: parts

theorem length_render (m : MediaType) :
    Utf8.length m.render
      = width (m.mainType.toList ++ '/' :: m.subtype.toList)
        + tailWidth (m.parameters.toList.map printed) := by
  rw [Utf8.length_eq_width, toList_render, width_intercalate]
  rfl

/-- Media types that count as equal print in the same number of bytes. -/
theorem length_render_of_equivalent {a b : MediaType} (h : a.equivalent b = true) :
    Utf8.length a.render = Utf8.length b.render := by
  have hwidth : ∀ s t : String, lower s = lower t → width s.toList = width t.toList := by
    intro s t hst
    rw [← Utf8.width_map_toLower s.toList, ← Text.toList_lower, hst, Text.toList_lower,
      Utf8.width_map_toLower]
  obtain ⟨hformat, hparameters⟩ := equivalent_iff.mp h
  obtain ⟨hmain, hsub⟩ := sameFormat_iff.mp hformat
  rw [length_render, length_render, hparameters, width_append, width_append,
    width_cons_of_lt (by decide), width_cons_of_lt (by decide), hwidth _ _ hmain, hwidth _ _ hsub]

theorem width_star_slash_star : width ("*".toList ++ '/' :: "*".toList) = 3 := by
  have hascii : ∀ c ∈ ['*', '/', '*'], c.toNat < 128 := by simp
  exact Utf8.width_of_ascii hascii

/-- A format prints in the bytes that it was read from, but for the lone star. -/
theorem width_of_formatOf {cs : List Char} {m : MediaType} (h : FormatOf cs m) :
    width (m.mainType.toList ++ '/' :: m.subtype.toList) = width cs
      ∨ cs = ['*'] ∧ width (m.mainType.toList ++ '/' :: m.subtype.toList) = width cs + 2 := by
  cases h with
  | star =>
      have hstar : lower "*" = "*" := Text.lower_eq_self rfl
      have hone : width ['*'] = 1 := Utf8.width_of_ascii (by simp)
      right
      refine ⟨rfl, ?_⟩
      rw [make, verbatim, hstar, width_star_slash_star, hone]
  | @slash mainType subtype _ _ _ _ _ =>
      left
      simp only [make, verbatim, Text.toList_lower, String.toList_ofList, width_append,
        width_cons_of_lt (c := '/') (by decide), Utf8.width_map_toLower]

/-- **A media type prints in no more bytes than it was read from**, or in two more if its format
was spelt as a lone star. -/
theorem length_render_le {s : String} {m : MediaType} (h : parse s = .ok m) :
    Utf8.length m.render ≤ Utf8.length s
      ∨ Shorthand s ∧ Utf8.length m.render ≤ Utf8.length s + 2 := by
  obtain ⟨format, parts, m₀, qs, hparts, hformat, hqs, rfl⟩ := parse_eq_ok_iff.mp h
  -- the text is its pieces, and its parts are the trimmed pieces
  obtain ⟨piece, pieces, hpieces⟩ := List.exists_cons_of_ne_nil (List.splitOn_ne_nil ';' s.toList)
  have hlength : Utf8.length s = width piece + tailWidth pieces := by
    rw [Utf8.length_eq_width, ← width_intercalate, ← hpieces, List.intercalate_splitOn]
  rw [trimmedParts, hpieces, List.map_cons] at hparts
  obtain ⟨rfl, rfl⟩ := List.cons.inj hparts
  have hfirst := width_trim_le piece
  have hrest := tailWidth_trimmed_le pieces
  have hparameters := tailWidth_withParameters_le hqs m₀
  have hnone : tailWidth (m₀.parameters.toList.map printed) = 0 := by
    rw [parameters_of_formatOf hformat]
    rfl
  have hprinted : Utf8.length (m₀.withParameters qs).render
      = width (m₀.mainType.toList ++ '/' :: m₀.subtype.toList)
        + tailWidth ((m₀.withParameters qs).parameters.toList.map printed) := by
    rw [length_render, withParameters_eq]
  rcases width_of_formatOf hformat with hsame | ⟨hstar, hlonger⟩
  · left
    omega
  · right
    refine ⟨⟨pieces.map trim, ?_⟩, by omega⟩
    rw [trimmedParts, hpieces, List.map_cons, hstar]

/-! ## The exception -/

/-- The lone star with a parameter of `n` letters. -/
def starText (n : Nat) : String := String.ofList ('*' :: ';' :: 'a' :: '=' :: List.replicate n 'x')

/-- What is read from it. -/
def starType (n : Nat) : MediaType :=
  (make "*" "*").withParameter "a" (String.ofList (List.replicate n 'x'))

theorem length_starText (n : Nat) : Utf8.length (starText n) = n + 4 := by
  rw [Utf8.length_eq_width, starText, String.toList_ofList, Utf8.width_of_ascii]
  · simp only [List.length_cons, List.length_replicate]
  · intro c hc
    simp only [List.mem_cons, List.mem_replicate] at hc
    rcases hc with rfl | rfl | rfl | rfl | ⟨-, rfl⟩
    all_goals decide

theorem pieces_starText (n : Nat) :
    pieces (starText n) = [['*'], ['a'] ++ '=' :: List.replicate n 'x'] := by
  have htext : (starText n).toList
      = [';'].intercalate [['*'], ['a'] ++ '=' :: List.replicate n 'x'] := by
    rw [starText, String.toList_ofList, intercalate_cons, List.flatMap_cons, List.flatMap_nil,
      List.append_nil]
    rfl
  have hsemicolon : ∀ part ∈ [['*'], ['a'] ++ '=' :: List.replicate n 'x'], ';' ∉ part := by
    intro part hpart hmem
    simp only [List.mem_cons, List.not_mem_nil, or_false] at hpart
    rcases hpart with rfl | rfl
    · exact absurd hmem (by decide)
    · simp only [List.mem_append, List.mem_cons, List.not_mem_nil, or_false,
        List.mem_replicate] at hmem
      rcases hmem with h | h | ⟨-, h⟩
      all_goals exact absurd h (by decide)
  rw [pieces, htext, List.splitOn_intercalate ';' hsemicolon (List.cons_ne_nil _ _)]

theorem parse_starText (n : Nat) : parse (starText n) = .ok (starType n) := by
  have hvalue : ∀ p : Char → Bool, p 'x' = false →
      trimBoth p (List.replicate n 'x') = List.replicate n 'x' := by
    intro p hp
    refine Text.trimBoth_eq_self_iff.mpr (Text.bare_of_forall ?_)
    intro c hc
    rw [(List.mem_replicate.mp hc).2]
    exact hp
  have hname : '=' ∉ ['a'] := by decide
  have hbinding := binding?_append hname (List.replicate n 'x')
  rw [trim, trim, hvalue Text.isBlank (by decide), hvalue isQuote (by decide)] at hbinding
  have hstar : trim ['*'] = ['*'] := by decide
  have hformat : FormatOf (trim ['*']) (make "*" "*") := by
    rw [hstar]
    exact .star
  have hreadable :=
    List.forall_mem_singleton.mpr (readable_append_equals ['a'] (List.replicate n 'x'))
  have hread := ReadAs.mk hformat hreadable
  rw [← pieces_starText, withBindings, List.filterMap_cons_some hbinding,
    List.filterMap_nil] at hread
  exact parse_eq_ok_iff_readAs.mpr hread

/-- It prints in two bytes more than it was read from. -/
theorem length_render_starType (n : Nat) : Utf8.length (starType n).render = n + 6 := by
  have hletters : width (List.replicate n 'x') = n := by
    rw [Utf8.width_of_ascii, List.length_replicate]
    intro c hc
    rw [(List.mem_replicate.mp hc).2]
    decide
  have hformat : width ((starType n).mainType.toList ++ '/' :: (starType n).subtype.toList)
      = 3 := by
    change width ((lower "*").toList ++ '/' :: (lower "*").toList) = 3
    rw [Text.lower_eq_self (s := "*") rfl]
    exact width_star_slash_star
  have hparameter : (starType n).parameters.toList.map printed
      = ['a' :: '=' :: List.replicate n 'x'] := by
    change [(lower "a").toList ++ '=' :: (String.ofList (List.replicate n 'x')).toList] = _
    rw [Text.lower_eq_self (s := "a") rfl, String.toList_ofList (l := List.replicate n 'x')]
    rfl
  rw [length_render, hformat, hparameter, tailWidth_cons, width_cons_of_lt (by decide),
    width_cons_of_lt (by decide), hletters]
  change 3 + (1 + (1 + (1 + n)) + 0) = n + 6
  omega

end SocketStrategies.MediaType
