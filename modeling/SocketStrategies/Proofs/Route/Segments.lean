import SocketStrategies.Proofs.Text.Splitting
import SocketStrategies.Proofs.Text.Trimming
import SocketStrategies.Route.Matcher

/-!
# The segments of a text

A text is cut into segments at a separator, and empty segments do not count. One equation carries
the rest of this module, `split_append_separator`: around a separator the segments are those in
front of it and then those behind it. So separators at the ends of a text do not count either, and
joining two texts joins their segments.

A segment is not empty and holds no separator. All lists of such texts are the segments of some
text.
-/

namespace SocketStrategies.RouteMatcher

variable (m : RouteMatcher)

/-! ## Cutting at one separator -/

theorem split_empty : m.split "" = [] := by
  rw [split, String.toList_empty, List.splitOn_nil]
  rfl

theorem split_append_separator (front back : List Char) :
    m.split (String.ofList (front ++ m.separator :: back))
      = m.split (String.ofList front) ++ m.split (String.ofList back) := by
  simp only [split, String.toList_ofList, List.splitOn_append_cons_self, List.filter_append,
    List.map_append]

/-- Whether a character is the separator. -/
abbrev isSeparator (c : Char) : Bool := c == m.separator

theorem split_separators_append {front : List Char} (h : ∀ c ∈ front, m.isSeparator c = true)
    (back : List Char) :
    m.split (String.ofList (front ++ back)) = m.split (String.ofList back) := by
  induction front with
  | nil => rfl
  | cons c front ih =>
      rw [eq_of_beq (h c List.mem_cons_self)]
      rw [List.cons_append, ← List.nil_append (m.separator :: (front ++ back)),
        m.split_append_separator, String.ofList_nil, m.split_empty, List.nil_append]
      exact ih fun d hd => h d (List.mem_cons_of_mem c hd)

theorem split_append_separators {back : List Char} (h : ∀ c ∈ back, m.isSeparator c = true)
    (front : List Char) :
    m.split (String.ofList (front ++ back)) = m.split (String.ofList front) := by
  cases back with
  | nil => rw [List.append_nil]
  | cons c back =>
      have hback := m.split_separators_append (fun d hd => h d (List.mem_cons_of_mem c hd)) []
      rw [List.append_nil, String.ofList_nil, m.split_empty] at hback
      rw [eq_of_beq (h c List.mem_cons_self), m.split_append_separator, hback, List.append_nil]

theorem split_trimStart (s : String) :
    m.split (String.ofList (Text.trimStart m.isSeparator s.toList)) = m.split s := by
  obtain ⟨front, hs, hfront⟩ := Text.exists_trimStart m.isSeparator s.toList
  rw [← m.split_separators_append hfront, ← hs, String.ofList_toList]

theorem split_trimEnd (s : String) :
    m.split (String.ofList (Text.trimEnd m.isSeparator s.toList)) = m.split s := by
  obtain ⟨back, hs, hback⟩ := Text.exists_trimEnd m.isSeparator s.toList
  rw [← m.split_append_separators hback, ← hs, String.ofList_toList]

/-! ## Joining -/

theorem combine_empty_left (s : String) : m.combine "" s = s := rfl

theorem combine_empty_right (s : String) : m.combine s "" = s := by
  unfold combine
  by_cases h : s.isEmpty = true
  · rw [if_pos h, String.isEmpty_iff.mp h]
  · rw [if_neg h]
    rfl

theorem combine_of_ne {a b : String} (ha : a ≠ "") (hb : b ≠ "") :
    m.combine a b = String.ofList (Text.trimEnd m.isSeparator a.toList ++ m.separator
      :: Text.trimStart m.isSeparator b.toList) := by
  rw [combine, if_neg (mt String.isEmpty_iff.mp ha), if_neg (mt String.isEmpty_iff.mp hb)]

/-- Joining two texts joins their segments. -/
theorem split_combine (a b : String) : m.split (m.combine a b) = m.split a ++ m.split b := by
  by_cases ha : a = ""
  · rw [ha, combine_empty_left, split_empty, List.nil_append]
  · by_cases hb : b = ""
    · rw [hb, combine_empty_right, split_empty, List.append_nil]
    · rw [m.combine_of_ne ha hb, split_append_separator, split_trimEnd, split_trimStart]

/-- A text between two separators is trimmed at both ends in either order. If nothing of it is
left, one separator is. -/
theorem trim_between_separators (xs ys zs : List Char) :
    Text.trimEnd m.isSeparator
          (Text.trimEnd m.isSeparator xs ++ m.separator :: Text.trimStart m.isSeparator ys)
        ++ m.separator :: Text.trimStart m.isSeparator zs
      = Text.trimEnd m.isSeparator xs ++ m.separator
        :: Text.trimStart m.isSeparator
          (Text.trimEnd m.isSeparator ys ++ m.separator :: Text.trimStart m.isSeparator zs) := by
  rcases Text.all_or_exists_bare m.isSeparator ys with
    hall | ⟨front, mid, back, rfl, hbare, hne, hfront, hback⟩
  · have hseparator : ∀ c ∈ [m.separator], m.isSeparator c = true := by simp
    have hend := Text.not_endsWith_trimEnd m.isSeparator xs
    have hstart := Text.not_startsWith_trimStart m.isSeparator zs
    rw [Text.trimStart_of_all hall, Text.trimEnd_of_all hall,
      Text.trimEnd_append_of_all hseparator, Text.trimEnd_of_not_endsWith hend, List.nil_append,
      ← List.singleton_append, Text.trimStart_append_of_all hseparator,
      Text.trimStart_of_not_startsWith hstart]
    rfl
  · rw [Text.trimStart_before_bare hbare hne hfront, Text.trimEnd_behind_bare hbare hne hback,
      List.append_cons _ _ (mid ++ back), Text.trimEnd_behind_bare hbare hne hback,
      List.append_assoc front, Text.trimStart_before_bare hbare hne hfront]
    simp only [List.append_assoc, List.cons_append, List.nil_append]

theorem combine_ne_empty {a b : String} (ha : a ≠ "") (hb : b ≠ "") : m.combine a b ≠ "" := by
  intro h
  have hlist := congrArg String.toList h
  rw [m.combine_of_ne ha hb, String.toList_ofList] at hlist
  exact List.append_ne_nil_of_right_ne_nil _ (List.cons_ne_nil _ _) hlist

theorem combine_assoc (a b c : String) :
    m.combine (m.combine a b) c = m.combine a (m.combine b c) := by
  by_cases ha : a = ""
  · rw [ha, combine_empty_left, combine_empty_left]
  by_cases hb : b = ""
  · rw [hb, combine_empty_right, combine_empty_left]
  by_cases hc : c = ""
  · rw [hc, combine_empty_right, combine_empty_right]
  rw [m.combine_of_ne (m.combine_ne_empty ha hb) hc, m.combine_of_ne ha (m.combine_ne_empty hb hc),
    m.combine_of_ne ha hb, m.combine_of_ne hb hc, String.toList_ofList, String.toList_ofList,
    trim_between_separators]

/-- **Joining is a monoid, and cutting respects it.** The empty text adds nothing on either side,
the order in which three texts are joined does not matter, and the segments of two texts that are
joined are those of the first and then those of the second. -/
theorem combine_monoid (a b c : String) :
    m.combine "" a = a ∧ m.combine a "" = a
      ∧ m.combine (m.combine a b) c = m.combine a (m.combine b c)
      ∧ (m.parse (m.combine a b)).segments = (m.parse a).segments ++ (m.parse b).segments :=
  ⟨m.combine_empty_left a, m.combine_empty_right a, m.combine_assoc a b c, m.split_combine a b⟩

/-! ## What a segment is -/

variable {m} {segment text : String}

theorem exists_piece_of_mem_split (h : segment ∈ m.split text) :
    ∃ piece ∈ text.toList.splitOn m.separator, piece ≠ [] ∧ segment = String.ofList piece := by
  obtain ⟨piece, hpiece, rfl⟩ := List.mem_map.mp h
  obtain ⟨hmem, hne⟩ := List.mem_filter.mp hpiece
  refine ⟨piece, hmem, ?_, rfl⟩
  rintro rfl
  exact absurd hne (by decide)

theorem ne_empty_of_mem_split (h : segment ∈ m.split text) : segment ≠ "" := by
  obtain ⟨piece, -, hne, rfl⟩ := exists_piece_of_mem_split h
  intro hempty
  rw [← String.toList_ofList (l := piece), hempty] at hne
  exact hne String.toList_empty

theorem separator_not_mem_of_mem_split (h : segment ∈ m.split text) :
    m.separator ∉ segment.toList := by
  obtain ⟨piece, hpiece, -, rfl⟩ := exists_piece_of_mem_split h
  rw [String.toList_ofList]
  exact Text.not_mem_of_mem_splitOn hpiece

theorem mem_of_mem_split (h : segment ∈ m.split text) {c : Char} (hc : c ∈ segment.toList) :
    c ∈ text.toList := by
  obtain ⟨piece, hpiece, -, rfl⟩ := exists_piece_of_mem_split h
  rw [String.toList_ofList] at hc
  exact Text.mem_of_mem_splitOn hpiece hc

theorem split_segment (hne : segment ≠ "") (hsep : m.separator ∉ segment.toList) :
    m.split segment = [segment] := by
  have hlist : segment.toList ≠ [] := mt String.toList_eq_nil_iff.mp hne
  rw [split, List.splitOn_eq_singleton hsep, List.filter_cons_of_pos (by simp [hlist])]
  simp

/-- Segments, and no other texts, are the segments of some text: of what they are when joined. -/
theorem exists_split_eq {segments : List String}
    (h : ∀ s ∈ segments, s ≠ "" ∧ m.separator ∉ s.toList) : ∃ text, m.split text = segments := by
  induction segments with
  | nil => exact ⟨"", m.split_empty⟩
  | cons s segments ih =>
      obtain ⟨rest, hrest⟩ := ih fun t ht => h t (List.mem_cons_of_mem s ht)
      obtain ⟨hne, hsep⟩ := h s List.mem_cons_self
      refine ⟨m.combine s rest, ?_⟩
      rw [split_combine, split_segment hne hsep, hrest, List.singleton_append]

end SocketStrategies.RouteMatcher
