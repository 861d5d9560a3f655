import SocketStrategies.Proofs.Route.Glob
import SocketStrategies.Proofs.Route.Matching
import SocketStrategies.Proofs.Route.Segments

/-!
# Texts that match themselves

A text can be used as a route and as a pattern. As a pattern it always matches itself as a route:
`**` can cover one segment, a capture covers any segment, and a glob is filled in by its own text.

Only for some texts is that all they match. A text without special characters has no wildcard in
any segment, and no segment of it is in braces, whatever the separator is. Matching it is
comparing the segments.
-/

namespace SocketStrategies

/-! ## A pattern on its own text -/

/-- Every piece covers the segment that is spelt like it. -/
theorem Derivation.exists_self (pieces : List String) :
    ∃ lengths bindings, Derivation pieces pieces lengths bindings := by
  induction pieces with
  | nil => exact ⟨[], [], .done⟩
  | cons piece pieces ih =>
      obtain ⟨lengths, bindings, hd⟩ := ih
      rcases Piece.rest_or_braced_or_neither piece with rfl | ⟨name, rfl⟩ | ⟨hr, hb⟩
      · have hrest : Derivation ("**" :: pieces) (["**"] ++ pieces) (1 :: lengths) bindings :=
          .rest hd
        exact ⟨1 :: lengths, bindings, hrest⟩
      · exact ⟨lengths, (name, braced name) :: bindings, .capture hd⟩
      · have hself := Glob.accepts_iff_filled.mpr (Glob.filled_self (Utf8.encode piece))
        exact ⟨lengths, bindings, .glob hr hb hself hd⟩

/-! ## Texts without special characters -/

namespace RouteMatcher

theorem isPattern_eq_false_iff {s : String} :
    isPattern s = false
      ↔ '*' ∉ s.toList ∧ '?' ∉ s.toList ∧ ('{' ∉ s.toList ∨ '}' ∉ s.toList) := by
  simp only [isPattern, Bool.or_eq_false_iff, Bool.and_eq_false_iff, decide_eq_false_iff_not,
    and_assoc]

/-- A segment of a text has no special characters that the text has not. -/
theorem isPattern_of_mem_split {m : RouteMatcher} {segment text : String}
    (h : isPattern text = false)
    (hsegment : segment ∈ m.split text) : isPattern segment = false := by
  rw [isPattern_eq_false_iff] at h ⊢
  obtain ⟨hstar, hone, hbraces⟩ := h
  refine ⟨mt (mem_of_mem_split hsegment) hstar, mt (mem_of_mem_split hsegment) hone, ?_⟩
  exact hbraces.imp (mt (mem_of_mem_split hsegment)) (mt (mem_of_mem_split hsegment))

end RouteMatcher

open RouteMatcher (isPattern isPattern_eq_false_iff)

theorem Piece.ofText_of_not_isPattern {s : String} (h : isPattern s = false) :
    ofText s = .glob s := by
  obtain ⟨hstar, -, hbraces⟩ := isPattern_eq_false_iff.mp h
  apply ofText_of_ne
  · rintro rfl
    exact hstar (by decide)
  · rintro name rfl
    rw [toList_braced] at hbraces
    rcases hbraces with hopen | hclose
    · exact hopen (by simp)
    · exact hclose (by simp)

theorem Glob.accepts_iff_eq {s : String} (h : isPattern s = false) (t : String) :
    accepts (Utf8.encode s) (Utf8.encode t) = true ↔ t = s := by
  obtain ⟨hstar, hone, -⟩ := isPattern_eq_false_iff.mp h
  rw [accepts_iff_filled, Utf8.encode_eq_flatMap s, filled_plainBytes_iff hstar hone,
    ← Utf8.encode_eq_flatMap, Utf8.encode_inj]

/-- Pieces without special characters are compared with the segments one by one, and bind
nothing. -/
theorem Pattern.match?_literal {pieces : List String} (h : ∀ s ∈ pieces, isPattern s = false)
    (segments : List String) (bound : Captures) :
    match? (pieces.map Piece.ofText) segments bound
      = if segments = pieces then some bound else none := by
  induction pieces generalizing segments with
  | nil =>
      rw [List.map_nil, match?]
      simp only [List.isEmpty_iff]
  | cons piece pieces ih =>
      have hpiece := h piece List.mem_cons_self
      rw [List.map_cons, Piece.ofText_of_not_isPattern hpiece]
      cases segments with
      | nil => rfl
      | cons segment left =>
          rw [match?, ih (fun s hs => h s (List.mem_cons_of_mem piece hs)) left]
          by_cases hsegment : segment = piece
          · rw [if_pos ((Glob.accepts_iff_eq hpiece segment).mpr hsegment)]
            simp only [List.cons.injEq, hsegment, true_and]
          · rw [if_neg (mt (Glob.accepts_iff_eq hpiece segment).mp hsegment),
              if_neg fun heq => hsegment (List.cons.inj heq).1]

/-- **A text matches itself, and a text without special characters nothing else.** Used as a
pattern, every text matches the route that is read from it. If it has no special characters, it
matches a route if and only if the segments are the same, and then it binds nothing. -/
theorem RouteMatcher.match?_itself (m : RouteMatcher) (p : String) :
    m.accepts p (m.parse p) = true
      ∧ (isPattern p = false → ∀ route : Route,
          m.match? p route
            = if route.segments = (m.parse p).segments then some .empty else none) := by
  constructor
  · rw [accepts_iff]
    exact Derivation.exists_self (m.split p)
  · intro h route
    exact Pattern.match?_literal (fun s hs => isPattern_of_mem_split h hs) route.segments .empty

/-- Separators do not count, and another segment does. -/
theorem RouteMatcher.match?_quotes :
    isPattern "quotes.btc" = false
      ∧ dot.match? "quotes.btc" (dot.parse ".quotes..btc") = some .empty
      ∧ dot.match? "quotes.btc" (dot.parse "quotes.eth") = none := by
  have h : isPattern "quotes.btc" = false := by decide
  refine ⟨h, ?_, ?_⟩
  · rw [(match?_itself dot "quotes.btc").2 h, if_pos (by decide)]
  · rw [(match?_itself dot "quotes.btc").2 h, if_neg (by decide)]

end SocketStrategies
