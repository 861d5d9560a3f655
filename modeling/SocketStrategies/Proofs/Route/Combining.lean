import SocketStrategies.Proofs.Route.Matching
import SocketStrategies.Proofs.Route.Segments

/-!
# Matching a combined pattern

The pieces of two patterns that are combined are those of the first and then those of the second.
A derivation of all of them is a derivation of the first ones on the front of the segments and one
of the others on the rest: where the first pattern ends, a cut falls between two segments.

So a combined pattern matches exactly the routes that its parts match one after the other. Where a
`**` ends the first part and another one starts the second, they share segments in as many ways as
there are cuts, and one cut that suits both is enough.
-/

namespace SocketStrategies

namespace Derivation

variable {pieces pieces' segments segments' : List String} {lengths lengths' : List Nat}
  {bindings bindings' : List (String × String)}

theorem append (h : Derivation pieces segments lengths bindings)
    (h' : Derivation pieces' segments' lengths' bindings') :
    Derivation (pieces ++ pieces') (segments ++ segments') (lengths ++ lengths')
      (bindings ++ bindings') := by
  induction h with
  | done => exact h'
  | rest _ ih =>
      rw [List.append_assoc]
      exact .rest ih
  | capture _ ih => exact .capture ih
  | glob hr hb hg _ ih => exact .glob hr hb hg ih

/-- A derivation of pieces in two parts is cut where the first part ends. -/
theorem exists_append (h : Derivation (pieces ++ pieces') segments lengths bindings) :
    ∃ front back lengths₁ lengths₂ bindings₁ bindings₂, segments = front ++ back
      ∧ lengths = lengths₁ ++ lengths₂ ∧ bindings = bindings₁ ++ bindings₂
      ∧ Derivation pieces front lengths₁ bindings₁
      ∧ Derivation pieces' back lengths₂ bindings₂ := by
  induction pieces generalizing segments lengths bindings with
  | nil => exact ⟨[], segments, [], lengths, [], bindings, rfl, rfl, rfl, .done, h⟩
  | cons piece pieces ih =>
      rw [List.cons_append] at h
      rcases Piece.rest_or_braced_or_neither piece with rfl | ⟨name, rfl⟩ | ⟨hr, hb⟩
      · obtain ⟨run, left, lengths, rfl, rfl, hd⟩ := h.rest_inv
        obtain ⟨front, back, lengths₁, lengths₂, bindings₁, bindings₂, rfl, rfl, rfl, hfront,
          hback⟩ := ih hd
        exact ⟨run ++ front, back, run.length :: lengths₁, lengths₂, bindings₁, bindings₂,
          (List.append_assoc ..).symm, rfl, rfl, .rest hfront, hback⟩
      · obtain ⟨segment, left, bindings, rfl, rfl, hd⟩ := h.capture_inv
        obtain ⟨front, back, lengths₁, lengths₂, bindings₁, bindings₂, rfl, rfl, rfl, hfront,
          hback⟩ := ih hd
        exact ⟨segment :: front, back, lengths₁, lengths₂, (name, segment) :: bindings₁, bindings₂,
          rfl, rfl, rfl, .capture hfront, hback⟩
      · obtain ⟨segment, left, rfl, hg, hd⟩ := h.glob_inv hr hb
        obtain ⟨front, back, lengths₁, lengths₂, bindings₁, bindings₂, rfl, rfl, rfl, hfront,
          hback⟩ := ih hd
        exact ⟨segment :: front, back, lengths₁, lengths₂, bindings₁, bindings₂,
          rfl, rfl, rfl, .glob hr hb hg hfront, hback⟩

theorem exists_append_iff :
    (∃ lengths bindings, Derivation (pieces ++ pieces') segments lengths bindings)
      ↔ ∃ front back, segments = front ++ back
        ∧ (∃ lengths bindings, Derivation pieces front lengths bindings)
        ∧ ∃ lengths bindings, Derivation pieces' back lengths bindings := by
  constructor
  · rintro ⟨lengths, bindings, hd⟩
    obtain ⟨front, back, lengths₁, lengths₂, bindings₁, bindings₂, hsegments, -, -, hfront,
      hback⟩ :=
      hd.exists_append
    exact ⟨front, back, hsegments, ⟨lengths₁, bindings₁, hfront⟩, ⟨lengths₂, bindings₂, hback⟩⟩
  · rintro ⟨front, back, rfl, ⟨lengths₁, bindings₁, hfront⟩, ⟨lengths₂, bindings₂, hback⟩⟩
    exact ⟨lengths₁ ++ lengths₂, bindings₁ ++ bindings₂, hfront.append hback⟩

end Derivation

namespace RouteMatcher

variable {m : RouteMatcher}

/-- Both parts of a list of segments are the segments of some text. -/
theorem exists_parse_of_append {text : String} {front back : List String}
    (h : m.split text = front ++ back) : ∃ a b, m.split a = front ∧ m.split b = back := by
  have hsegment : ∀ s ∈ front ++ back, s ≠ "" ∧ m.separator ∉ s.toList := by
    intro s hs
    rw [← h] at hs
    exact ⟨ne_empty_of_mem_split hs, separator_not_mem_of_mem_split hs⟩
  obtain ⟨a, ha⟩ := exists_split_eq fun s hs => hsegment s (List.mem_append_left back hs)
  obtain ⟨b, hb⟩ := exists_split_eq fun s hs => hsegment s (List.mem_append_right front hs)
  exact ⟨a, b, ha, hb⟩

/-- **A combined pattern matches what its parts match one after the other.** A route is matched if
and only if its segments can be cut into those of a route that the first pattern matches and those
of a route that the second one matches. If the route was read from a text, with any separator, the
two routes can be read from texts with the same separator. -/
theorem accepts_combine_iff (m : RouteMatcher) (p q : String) :
    (∀ route : Route, m.accepts (m.combine p q) route = true
        ↔ ∃ front back : Route, route.segments = front.segments ++ back.segments
          ∧ m.accepts p front = true ∧ m.accepts q back = true)
      ∧ ∀ (n : RouteMatcher) (text : String), m.accepts (m.combine p q) (n.parse text) = true
        ↔ ∃ a b, (n.parse text).segments = (n.parse a).segments ++ (n.parse b).segments
          ∧ m.accepts p (n.parse a) = true ∧ m.accepts q (n.parse b) = true := by
  have hcut : ∀ route : Route, m.accepts (m.combine p q) route = true
      ↔ ∃ front back, route.segments = front ++ back
        ∧ (∃ lengths bindings, Derivation (m.split p) front lengths bindings)
        ∧ ∃ lengths bindings, Derivation (m.split q) back lengths bindings := by
    intro route
    rw [accepts_iff, split_combine, Derivation.exists_append_iff]
  simp only [hcut, accepts_iff]
  constructor
  · intro route
    constructor
    · rintro ⟨front, back, hsegments, hfront, hback⟩
      exact ⟨⟨route.value, front⟩, ⟨route.value, back⟩, hsegments, hfront, hback⟩
    · rintro ⟨front, back, hsegments, hfront, hback⟩
      exact ⟨front.segments, back.segments, hsegments, hfront, hback⟩
  · intro n text
    constructor
    · rintro ⟨front, back, hsegments, hfront, hback⟩
      obtain ⟨a, b, rfl, rfl⟩ := exists_parse_of_append hsegments
      exact ⟨a, b, hsegments, hfront, hback⟩
    · rintro ⟨a, b, hsegments, hfront, hback⟩
      exact ⟨(n.parse a).segments, (n.parse b).segments, hsegments, hfront, hback⟩

-- The first part could cover all three segments. Only if it leaves the last two is there a match.
example : RouteMatcher.slash.accepts (RouteMatcher.slash.combine "a/**/" "/**/b/*c")
    (RouteMatcher.slash.parse "a/b/xc") = true := by cbv

end RouteMatcher

end SocketStrategies
