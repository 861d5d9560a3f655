/-!
# The pieces of a text

A text is cut at every character of one kind. No piece holds that character, and what a
piece holds stands in the text. Where pieces are joined by such a character, there is
nothing else in the text.
-/

namespace SocketStrategies.Text

variable {sep : Char} {cs piece : List Char}

/-- A character in front of a text ends an empty piece or lengthens the first one. -/
theorem mem_splitOn_cons {c : Char} (h : piece ∈ (c :: cs).splitOn sep) :
    piece = [] ∨ piece ∈ cs.splitOn sep
      ∨ c ≠ sep ∧ ∃ first ∈ cs.splitOn sep, piece = c :: first := by
  rw [List.splitOn_cons_eq_if_modifyHead] at h
  by_cases hc : (c == sep) = true
  · rw [if_pos hc] at h
    rcases List.mem_cons.mp h with h | h
    · exact .inl h
    · exact .inr (.inl h)
  · rw [if_neg hc] at h
    rw [beq_iff_eq] at hc
    cases hsplit : cs.splitOn sep with
    | nil => exact absurd hsplit (List.splitOn_ne_nil sep cs)
    | cons first others =>
        rw [hsplit] at h
        rcases List.mem_cons.mp h with h | h
        · exact .inr (.inr ⟨hc, first, List.mem_cons_self, h⟩)
        · exact .inr (.inl (List.mem_cons_of_mem first h))

theorem not_mem_of_mem_splitOn (h : piece ∈ cs.splitOn sep) : sep ∉ piece := by
  induction cs generalizing piece with
  | nil =>
      rw [List.splitOn_nil, List.mem_singleton] at h
      rw [h]
      exact List.not_mem_nil
  | cons c cs ih =>
      rcases mem_splitOn_cons h with rfl | h | ⟨hc, first, hfirst, rfl⟩
      · exact List.not_mem_nil
      · exact ih h
      · intro hmem
        rcases List.mem_cons.mp hmem with hsep | hmem
        · exact hc hsep.symm
        · exact ih hfirst hmem

theorem mem_of_mem_splitOn (h : piece ∈ cs.splitOn sep) {c : Char} (hc : c ∈ piece) : c ∈ cs := by
  induction cs generalizing piece with
  | nil =>
      rw [List.splitOn_nil, List.mem_singleton] at h
      rw [h] at hc
      exact hc
  | cons d cs ih =>
      rcases mem_splitOn_cons h with rfl | h | ⟨-, first, hfirst, rfl⟩
      · exact absurd hc List.not_mem_nil
      · exact List.mem_cons_of_mem d (ih h hc)
      · rcases List.mem_cons.mp hc with rfl | hc
        · exact List.mem_cons_self
        · exact List.mem_cons_of_mem d (ih hfirst hc)

/-- What stands in pieces with separators between them. -/
theorem mem_intercalate {pieces : List (List Char)} {c : Char}
    (hc : c ∈ [sep].intercalate pieces) :
    c = sep ∨ ∃ piece ∈ pieces, c ∈ piece := by
  induction pieces with
  | nil => cases hc
  | cons piece pieces ih =>
      cases pieces with
      | nil =>
          rw [List.intercalate_singleton] at hc
          exact .inr ⟨piece, List.mem_cons_self, hc⟩
      | cons next pieces =>
          rw [List.intercalate_cons_cons] at hc
          rcases List.mem_append.mp hc with hc | hc
          · rcases List.mem_append.mp hc with hc | hc
            · exact .inr ⟨piece, List.mem_cons_self, hc⟩
            · exact .inl (List.mem_singleton.mp hc)
          · refine (ih hc).imp_right ?_
            rintro ⟨found, hfound, hc⟩
            exact ⟨found, List.mem_cons_of_mem piece hfound, hc⟩

end SocketStrategies.Text
