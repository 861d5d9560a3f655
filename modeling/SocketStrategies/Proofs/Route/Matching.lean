import SocketStrategies.Proofs.Dict
import SocketStrategies.Route.Matcher

/-!
# Matching finds the shortest cover there is

A pattern matches a route in as many ways as its `**` pieces can share the segments among them. A
**derivation** is one such way: how many segments each `**` covers, and what the captures are
bound to. Derivations are compared by their lengths, first to last.

Matching searches them, shortest first at each `**`, and undoes the bindings of a try that fails.
What is proved here is that the search loses nothing and keeps nothing: it fails only if there is
no derivation, and else it answers with the bindings of the least derivation and no others.
-/

namespace SocketStrategies

/-! ## Derivations -/

/-- The text of a piece that captures a name. -/
def braced (name : String) : String := String.ofList ('{' :: name.toList ++ ['}'])

/--
`Derivation pieces segments lengths bindings`: the pieces cover the segments in order, the `**`
among them covering runs of these lengths, and the captures among them bind these names.
-/
inductive Derivation :
    List String → List String → List Nat → List (String × String) → Prop where
  /-- No piece covers no segment. -/
  | done : Derivation [] [] [] []
  /-- `**` covers a run of any length. -/
  | rest {pieces run left : List String} {lengths : List Nat} {bindings : List (String × String)} :
      Derivation pieces left lengths bindings →
      Derivation ("**" :: pieces) (run ++ left) (run.length :: lengths) bindings
  /-- `{name}` covers one segment and binds it. -/
  | capture {pieces left : List String} {lengths : List Nat} {bindings : List (String × String)}
      {name segment : String} :
      Derivation pieces left lengths bindings →
      Derivation (braced name :: pieces) (segment :: left) lengths ((name, segment) :: bindings)
  /-- Any other piece covers one segment that it matches as a glob. -/
  | glob {pieces left : List String} {lengths : List Nat} {bindings : List (String × String)}
      {piece segment : String} :
      piece ≠ "**" → (∀ name, piece ≠ braced name) →
      Glob.accepts (Utf8.encode piece) (Utf8.encode segment) = true →
      Derivation pieces left lengths bindings →
      Derivation (piece :: pieces) (segment :: left) lengths bindings

/-- One list of lengths is another, or smaller at the first place where they differ. -/
def ShorterOrSame (lengths lengths' : List Nat) : Prop :=
  lengths = lengths' ∨ List.Lex (· < ·) lengths lengths'

theorem ShorterOrSame.cons {lengths lengths' : List Nat} (h : ShorterOrSame lengths lengths')
    (n : Nat) : ShorterOrSame (n :: lengths) (n :: lengths') := by
  rcases h with rfl | h
  · exact Or.inl rfl
  · exact Or.inr (.cons h)

theorem ShorterOrSame.antisymm {lengths lengths' : List Nat} (h : ShorterOrSame lengths lengths')
    (h' : ShorterOrSame lengths' lengths) : lengths = lengths' := by
  rcases h with rfl | h
  · rfl
  · rcases h' with rfl | h'
    · rfl
    · exact absurd h' (List.lex_asymm Nat.lt_asymm h)

/-- A derivation that no other one is shorter than. -/
structure LeastDerivation (pieces segments : List String) (lengths : List Nat)
    (bindings : List (String × String)) : Prop where
  derivation : Derivation pieces segments lengths bindings
  /-- Every other is longer at the first place where they differ. -/
  least : ∀ {lengths' : List Nat} {bindings' : List (String × String)},
    Derivation pieces segments lengths' bindings' → ShorterOrSame lengths lengths'

/-! ## The three kinds of pieces -/

namespace Piece

theorem captureName?_eq_some_iff {cs name : List Char} :
    captureName? cs = some name ↔ cs = '{' :: name ++ ['}'] := by
  unfold captureName?
  constructor
  · intro h
    split at h
    · rename_i inner
      split at h
      · rename_i rname hrev
        obtain rfl := Option.some.inj h
        rw [← List.reverse_reverse inner, hrev, List.reverse_cons]
        rfl
      · exact absurd h (by simp)
    · exact absurd h (by simp)
  · rintro rfl
    simp

theorem toList_braced (name : String) : (braced name).toList = '{' :: name.toList ++ ['}'] :=
  String.toList_ofList

theorem ofText_rest : ofText "**" = .rest := rfl

theorem braced_ne_rest (name : String) : braced name ≠ "**" := by
  intro h
  have hl := congrArg String.toList h
  rw [toList_braced] at hl
  exact absurd (List.cons.inj hl).1 (by decide)

theorem ofText_braced (name : String) : ofText (braced name) = .capture name := by
  unfold ofText
  rw [beq_eq_false_iff_ne.mpr (braced_ne_rest name),
    captureName?_eq_some_iff.mpr (toList_braced name)]
  simp

theorem braced_injective {name name' : String} (h : braced name = braced name') :
    name = name' := by
  have hp := congrArg ofText h
  rw [ofText_braced, ofText_braced] at hp
  exact Piece.capture.inj hp

theorem ofText_of_ne {s : String} (h : s ≠ "**") (hb : ∀ name, s ≠ braced name) :
    ofText s = .glob s := by
  have hnone : captureName? s.toList = none := by
    rw [Option.eq_none_iff_forall_ne_some]
    intro name hname
    refine hb (String.ofList name) (String.toList_injective ?_)
    rw [toList_braced, String.toList_ofList, captureName?_eq_some_iff.mp hname]
  unfold ofText
  rw [beq_eq_false_iff_ne.mpr h, hnone]
  rfl

/-- Every piece is `**`, or a name in braces, or neither. -/
theorem rest_or_braced_or_neither (s : String) :
    s = "**" ∨ (∃ name, s = braced name) ∨ s ≠ "**" ∧ ∀ name, s ≠ braced name := by
  by_cases h : s = "**"
  · exact Or.inl h
  · by_cases hb : ∃ name, s = braced name
    · exact Or.inr (Or.inl hb)
    · exact Or.inr (Or.inr ⟨h, fun name hn => hb ⟨name, hn⟩⟩)

end Piece

/-! ## What a derivation starts with -/

namespace Derivation

variable {pieces segments : List String} {lengths : List Nat} {bindings : List (String × String)}

theorem rest_inv (h : Derivation ("**" :: pieces) segments lengths bindings) :
    ∃ run left lengths', segments = run ++ left ∧ lengths = run.length :: lengths'
      ∧ Derivation pieces left lengths' bindings := by
  generalize hp : "**" :: pieces = ps at h
  cases h with
  | done => exact absurd hp (by simp)
  | rest hd =>
      obtain ⟨-, rfl⟩ := List.cons.inj hp
      exact ⟨_, _, _, rfl, rfl, hd⟩
  | capture _ => exact absurd (List.cons.inj hp).1.symm (Piece.braced_ne_rest _)
  | glob hne _ _ _ => exact absurd (List.cons.inj hp).1.symm hne

theorem capture_inv {name : String}
    (h : Derivation (braced name :: pieces) segments lengths bindings) :
    ∃ segment left bindings', segments = segment :: left
      ∧ bindings = (name, segment) :: bindings' ∧ Derivation pieces left lengths bindings' := by
  generalize hp : braced name :: pieces = ps at h
  cases h with
  | done => exact absurd hp (by simp)
  | rest _ => exact absurd (List.cons.inj hp).1 (Piece.braced_ne_rest name)
  | capture hd =>
      obtain ⟨hn, rfl⟩ := List.cons.inj hp
      rw [Piece.braced_injective hn]
      exact ⟨_, _, _, rfl, rfl, hd⟩
  | glob _ hne _ _ => exact absurd (List.cons.inj hp).1.symm (hne name)

theorem glob_inv {piece : String} (hr : piece ≠ "**") (hb : ∀ name, piece ≠ braced name)
    (h : Derivation (piece :: pieces) segments lengths bindings) :
    ∃ segment left, segments = segment :: left
      ∧ Glob.accepts (Utf8.encode piece) (Utf8.encode segment) = true
      ∧ Derivation pieces left lengths bindings := by
  cases h with
  | rest _ => exact absurd rfl hr
  | capture _ => exact absurd rfl (hb _)
  | glob _ _ hg hd => exact ⟨_, _, rfl, hg, hd⟩

/-- The lengths settle a derivation, bindings included. -/
theorem bindings_unique (h : Derivation pieces segments lengths bindings)
    {bindings' : List (String × String)} (h' : Derivation pieces segments lengths bindings') :
    bindings = bindings' := by
  induction h generalizing bindings' with
  | done =>
      cases h'
      rfl
  | rest _ ih =>
      obtain ⟨run', left', lengths', hsegs, hlens, hd⟩ := h'.rest_inv
      -- runs of one length end at the same place
      obtain ⟨hlen, rfl⟩ := List.cons.inj hlens
      obtain ⟨-, rfl⟩ := List.append_inj hsegs hlen
      exact ih hd
  | capture _ ih =>
      obtain ⟨segment', left', rest', hsegs, rfl, hd⟩ := h'.capture_inv
      obtain ⟨rfl, rfl⟩ := List.cons.inj hsegs
      rw [ih hd]
  | glob hr hb _ _ ih =>
      obtain ⟨segment', left', hsegs, -, hd⟩ := h'.glob_inv hr hb
      obtain ⟨-, rfl⟩ := List.cons.inj hsegs
      exact ih hd

end Derivation

/-! ## The search -/

/-- A search for how much of a list to drop, from nothing on, ends where something is found for the
first time: if less is dropped, nothing is found. -/
theorem findSome?_drop_eq_some {α β : Type} (f : List α → Option β) {l : List α} {b : β}
    (h : (List.range (l.length + 1)).findSome? (fun n => f (l.drop n)) = some b) :
    ∃ run left, l = run ++ left ∧ f left = some b
      ∧ ∀ run' left', l = run' ++ left' → run'.length < run.length → f left' = none := by
  induction l with
  | nil =>
      rw [List.length_nil, Nat.zero_add, List.range_one, List.findSome?_singleton] at h
      exact ⟨[], [], rfl, h, fun _ _ _ hlt => absurd hlt (Nat.not_lt_zero _)⟩
  | cons a l ih =>
      rw [List.length_cons, List.range_succ_eq_map, List.findSome?_cons, List.drop_zero,
        List.findSome?_map] at h
      cases ha : f (a :: l) with
      | some b' =>
          rw [ha] at h
          exact ⟨[], a :: l, rfl, ha.trans h, fun _ _ _ hlt => absurd hlt (Nat.not_lt_zero _)⟩
      | none =>
          rw [ha] at h
          obtain ⟨run, left, rfl, hf, hnone⟩ := ih h
          refine ⟨a :: run, left, rfl, hf, fun run' left' hl hlt => ?_⟩
          cases run' with
          | nil =>
              rw [List.nil_append] at hl
              exact hl ▸ ha
          | cons a' run' =>
              exact hnone run' left' (List.cons.inj hl).2 (Nat.lt_of_succ_lt_succ hlt)

namespace Pattern

/-- Where there is a derivation the search does not fail, whatever is bound already. -/
theorem match?_ne_none {pieces segments : List String} {lengths : List Nat}
    {bindings : List (String × String)} (h : Derivation pieces segments lengths bindings)
    (bound : Captures) : match? (pieces.map Piece.ofText) segments bound ≠ none := by
  induction h generalizing bound with
  | done => exact Option.some_ne_none bound
  | @rest pieces run left _ _ _ ih =>
      intro hnone
      rw [List.map_cons, Piece.ofText_rest, match?, List.findSome?_eq_none_iff] at hnone
      have hlength : run.length ∈ List.range ((run ++ left).length + 1) := by
        rw [List.mem_range, List.length_append]
        omega
      have hleft := hnone run.length hlength
      rw [List.drop_left] at hleft
      exact ih bound hleft
  | capture _ ih =>
      rw [List.map_cons, Piece.ofText_braced, match?]
      exact ih _
  | glob hr hb hg _ ih =>
      rw [List.map_cons, Piece.ofText_of_ne hr hb, match?, if_pos hg]
      exact ih bound

/-- What the search finds are the bindings of the least derivation, made on top of those before. -/
theorem exists_leastDerivation {pieces segments : List String} {bound found : Captures}
    (h : match? (pieces.map Piece.ofText) segments bound = some found) :
    ∃ lengths bindings, LeastDerivation pieces segments lengths bindings
      ∧ found = bindings.foldl (fun d e => d.insert e.1 e.2) bound := by
  induction pieces generalizing segments bound with
  | nil =>
      rw [List.map_nil, match?] at h
      split at h
      · rename_i hempty
        obtain rfl := List.isEmpty_iff.mp hempty
        refine ⟨[], [], ⟨.done, fun h' => ?_⟩, (Option.some.inj h).symm⟩
        cases h'
        exact Or.inl rfl
      · exact absurd h (by simp)
  | cons piece pieces ih =>
      rcases Piece.rest_or_braced_or_neither piece with rfl | ⟨name, rfl⟩ | ⟨hr, hb⟩
      · rw [List.map_cons, Piece.ofText_rest, match?] at h
        obtain ⟨run, left, rfl, hleft, hshorter⟩ :=
          findSome?_drop_eq_some (fun left => match? (pieces.map Piece.ofText) left bound) h
        obtain ⟨lengths, bindings, hd, hfound⟩ := ih hleft
        refine ⟨_, _, ⟨.rest hd.derivation, fun h' => ?_⟩, hfound⟩
        obtain ⟨run', left', lengths', hsegs, rfl, hd'⟩ := h'.rest_inv
        rcases Nat.lt_trichotomy run'.length run.length with hlt | heq | hgt
        · -- a shorter run was tried before and gave nothing, so it starts no derivation
          exact absurd (hshorter run' left' hsegs hlt) (match?_ne_none hd' bound)
        · obtain ⟨-, rfl⟩ := List.append_inj hsegs heq.symm
          exact heq ▸ (hd.least hd').cons run'.length
        · -- a longer run loses at this `**`, however the rest goes
          exact Or.inr (.rel hgt)
      · rw [List.map_cons, Piece.ofText_braced] at h
        cases segments with
        | nil => exact absurd h (by simp [match?])
        | cons segment left =>
            rw [match?] at h
            obtain ⟨lengths, bindings, hd, hfound⟩ := ih h
            refine ⟨_, _, ⟨.capture hd.derivation, fun h' => ?_⟩, hfound⟩
            obtain ⟨_, _, _, hsegs, -, hd'⟩ := h'.capture_inv
            exact hd.least ((List.cons.inj hsegs).2 ▸ hd')
      · rw [List.map_cons, Piece.ofText_of_ne hr hb] at h
        cases segments with
        | nil => exact absurd h (by simp [match?])
        | cons segment left =>
            rw [match?] at h
            split at h
            · rename_i hg
              obtain ⟨lengths, bindings, hd, hfound⟩ := ih h
              refine ⟨_, _, ⟨.glob hr hb hg hd.derivation, fun h' => ?_⟩, hfound⟩
              obtain ⟨_, _, hsegs, -, hd'⟩ := h'.glob_inv hr hb
              exact hd.least ((List.cons.inj hsegs).2 ▸ hd')
            · exact absurd h (by simp)

theorem match?_eq_none_iff {pieces segments : List String} {bound : Captures} :
    match? (pieces.map Piece.ofText) segments bound = none
      ↔ ¬ ∃ lengths bindings, Derivation pieces segments lengths bindings := by
  constructor
  · rintro h ⟨lengths, bindings, hd⟩
    exact match?_ne_none hd bound h
  · intro h
    rw [Option.eq_none_iff_forall_ne_some]
    intro found hfound
    obtain ⟨lengths, bindings, hd, -⟩ := exists_leastDerivation hfound
    exact h ⟨lengths, bindings, hd.derivation⟩

/-- There is only one least derivation, so its bindings are the ones that are found. -/
theorem match?_of_leastDerivation {pieces segments : List String} {lengths : List Nat}
    {bindings : List (String × String)} (h : LeastDerivation pieces segments lengths bindings)
    (bound : Captures) :
    match? (pieces.map Piece.ofText) segments bound
      = some (bindings.foldl (fun d e => d.insert e.1 e.2) bound) := by
  -- the search finds some least derivation, and its lengths leave no other
  obtain ⟨found, hfound⟩ := Option.ne_none_iff_exists'.mp (match?_ne_none h.derivation bound)
  obtain ⟨lengths', bindings', hd, rfl⟩ := exists_leastDerivation hfound
  obtain rfl := (h.least hd.derivation).antisymm (hd.least h.derivation)
  rw [hfound, h.derivation.bindings_unique hd.derivation]

end Pattern

/-- A route is accepted if the pieces can cover it, whatever they bind. -/
theorem RouteMatcher.accepts_iff {m : RouteMatcher} {pattern : String} {route : Route} :
    m.accepts pattern route = true
      ↔ ∃ lengths bindings, Derivation (m.split pattern) route.segments lengths bindings := by
  rw [accepts, Option.isSome_iff_ne_none, match?, RouteMatcher.pattern, Ne,
    Pattern.match?_eq_none_iff, Classical.not_not]

/--
**Route matching is exact.** A pattern does not match exactly when its pieces cannot cover the
segments. When it matches, what is bound is what the captures of the least derivation cover, a
later capture of a name in place of an earlier one, and nothing else.
-/
theorem RouteMatcher.match?_exact (m : RouteMatcher) (pattern : String) (route : Route) :
    (m.match? pattern route = none
        ↔ ¬ ∃ lengths bindings, Derivation (m.split pattern) route.segments lengths bindings)
      ∧ ∀ found, m.match? pattern route = some found
          ↔ ∃ lengths bindings, LeastDerivation (m.split pattern) route.segments lengths bindings
              ∧ ∀ name, found.get? name = bindings.reverse.lookup name := by
  refine ⟨Pattern.match?_eq_none_iff, fun found => ⟨fun h => ?_, ?_⟩⟩
  · obtain ⟨lengths, bindings, hd, rfl⟩ := Pattern.exists_leastDerivation h
    exact ⟨lengths, bindings, hd, Dict.get?_ofList bindings⟩
  · rintro ⟨lengths, bindings, hd, hget⟩
    have hfound : found = Dict.ofList bindings :=
      Dict.ext_get? fun name => (hget name).trans (Dict.get?_ofList bindings name).symm
    rw [hfound]
    exact Pattern.match?_of_leastDerivation hd .empty

-- The first try binds `x` to `a` and fails at `c`; nothing of it is left.
example : (RouteMatcher.slash.match? "**/\x7bx\x7d/c" (RouteMatcher.slash.parse "a/b/c")).map
    Dict.toList = some [("x", "b")] := by cbv

end SocketStrategies
