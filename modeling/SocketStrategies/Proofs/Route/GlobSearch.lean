import Mathlib.Data.List.Forall2
import SocketStrategies.Proofs.Route.Glob

/-!
# How the search for a match goes

The matches of a glob can be searched for one byte at a time. At a star the search first goes on
behind the star with the whole text, and if nothing is found there, it comes back to the star with
a shorter text. So one of the two calls keeps the text and the other keeps the glob, and neither
argument alone gets smaller in every call.

What gets smaller is the length of both together. `Settles` has one rule for each way in which a
call returns, and from every glob and text it comes to an answer, with no more calls inside each
other than both have bytes. The answer is that of `accepts`, and it says whether the text can be
cut into one piece for each byte of the glob.
-/

namespace SocketStrategies.Glob

/-! ## Pieces of the text -/

/-- The piece of a text that a byte of a glob takes. -/
inductive Takes : UInt8 → Bytes → Prop where
  | star (run : Bytes) : Takes Glob.star run
  | one (t : UInt8) : Takes Glob.one [t]
  | same {g : UInt8} : g ≠ Glob.star → g ≠ Glob.one → Takes g [g]

variable {glob text : Bytes} {g t : UInt8}

theorem exists_pieces_of_filled (h : Filled star one glob text) :
    ∃ pieces, List.Forall₂ Takes glob pieces ∧ text = pieces.flatten := by
  induction h with
  | done => exact ⟨[], .nil, rfl⟩
  | star run _ ih =>
      obtain ⟨pieces, htakes, rfl⟩ := ih
      exact ⟨run :: pieces, .cons (.star run) htakes, rfl⟩
  | one t _ ih =>
      obtain ⟨pieces, htakes, rfl⟩ := ih
      exact ⟨[t] :: pieces, .cons (.one t) htakes, rfl⟩
  | @same _ _ g hstar hone _ ih =>
      obtain ⟨pieces, htakes, rfl⟩ := ih
      exact ⟨[g] :: pieces, .cons (.same hstar hone) htakes, rfl⟩

theorem filled_of_pieces {pieces : List Bytes} (h : List.Forall₂ Takes glob pieces) :
    Filled star one glob pieces.flatten := by
  induction h with
  | nil => exact .done
  | cons htakes _ ih =>
      rw [List.flatten_cons]
      cases htakes with
      | star => exact .star _ ih
      | one t => exact .one t ih
      | same hstar hone => exact .same hstar hone ih

/-! ## A star byte by byte -/

theorem accepts_star_nil : accepts (star :: glob) [] = accepts glob [] := by
  rw [accepts_star, List.length_nil, Nat.zero_add, List.range_one, List.any_cons, List.any_nil,
    Bool.or_false, List.drop_nil]

theorem accepts_star_cons :
    accepts (star :: glob) (t :: text)
      = (accepts glob (t :: text) || accepts (star :: glob) text) := by
  rw [accepts_star, accepts_star, List.length_cons, List.range_succ_eq_map, List.any_cons,
    List.any_map]
  rfl

/-! ## The search -/

/-- `Settles n glob text b`: the call for a glob and a text returns `b`, and the calls that it
makes are nested at most `n` deep. -/
inductive Settles : Nat → Bytes → Bytes → Bool → Prop where
  | done : Settles 0 [] [] true
  /-- The glob is used up before the text. -/
  | textLeft {t : UInt8} {text : Bytes} : Settles 0 [] (t :: text) false
  /-- The rest of the glob matches here, so nothing else is tried. -/
  | starEnds {n : Nat} {glob text : Bytes} :
      Settles n glob text true → Settles (n + 1) (Glob.star :: glob) text true
  /-- The rest of the glob does not match here, and the star takes one byte more. -/
  | starTakes {n m : Nat} {glob text : Bytes} {t : UInt8} {b : Bool} :
      Settles n glob (t :: text) false → Settles m (Glob.star :: glob) text b →
      Settles (max n m + 1) (Glob.star :: glob) (t :: text) b
  /-- The rest of the glob does not match here, and no byte is left to take. -/
  | starStops {n : Nat} {glob : Bytes} :
      Settles n glob [] false → Settles (n + 1) (Glob.star :: glob) [] false
  | one {n : Nat} {glob text : Bytes} {t : UInt8} {b : Bool} :
      Settles n glob text b → Settles (n + 1) (Glob.one :: glob) (t :: text) b
  | same {n : Nat} {glob text : Bytes} {g : UInt8} {b : Bool} : g ≠ Glob.star → g ≠ Glob.one →
      Settles n glob text b → Settles (n + 1) (g :: glob) (g :: text) b
  | other {glob text : Bytes} {g t : UInt8} : g ≠ Glob.star → g ≠ Glob.one → g ≠ t →
      Settles 0 (g :: glob) (t :: text) false
  /-- The text is used up before the glob. -/
  | short {glob : Bytes} {g : UInt8} : g ≠ Glob.star → Settles 0 (g :: glob) [] false

/-- Whatever the search returns is the answer of `accepts`. -/
theorem Settles.eq_accepts {n : Nat} {b : Bool} (h : Settles n glob text b) :
    b = accepts glob text := by
  induction h with
  | done => rfl
  | textLeft => rfl
  | @starEnds _ _ text _ ih =>
      cases text with
      | nil => rw [accepts_star_nil, ← ih]
      | cons t text => rw [accepts_star_cons, ← ih, Bool.true_or]
  | starTakes _ _ ihrest ihstar => rw [accepts_star_cons, ← ihrest, Bool.false_or, ihstar]
  | starStops _ ih => rw [accepts_star_nil, ih]
  | one _ ih => rw [accepts_one, ih]
  | same hstar _ _ ih => rw [accepts_same hstar, ih]
  | other hstar hone hne => rw [accepts_other hstar hone hne]
  | short hstar => rw [accepts_cons_nil hstar]

/-- A star comes to an answer on every text if the rest of the glob does. Each byte that it takes
makes the text shorter, while the rest of the glob starts anew on what is left. -/
theorem exists_settles_star
    (hrest : ∀ text, ∃ n b, n ≤ glob.length + text.length ∧ Settles n glob text b) (text : Bytes) :
    ∃ n b, n ≤ (star :: glob).length + text.length ∧ Settles n (star :: glob) text b := by
  induction text with
  | nil =>
      obtain ⟨n, b, hn, hsettles⟩ := hrest []
      have hle : n + 1 ≤ (star :: glob).length + ([] : Bytes).length := by
        rw [List.length_cons]
        omega
      cases b with
      | false => exact ⟨n + 1, false, hle, .starStops hsettles⟩
      | true => exact ⟨n + 1, true, hle, .starEnds hsettles⟩
  | cons t text ih =>
      obtain ⟨n, b, hn, hsettles⟩ := hrest (t :: text)
      obtain ⟨m, b', hm, hshorter⟩ := ih
      rw [List.length_cons] at hn hm
      cases b with
      | false =>
          refine ⟨max n m + 1, b', ?_, .starTakes hsettles hshorter⟩
          rw [List.length_cons, List.length_cons]
          omega
      | true =>
          refine ⟨n + 1, true, ?_, .starEnds hsettles⟩
          rw [List.length_cons, List.length_cons]
          omega

/-- The search ends on every glob and every text. -/
theorem exists_settles (glob text : Bytes) :
    ∃ n b, n ≤ glob.length + text.length ∧ Settles n glob text b := by
  induction glob generalizing text with
  | nil =>
      cases text with
      | nil => exact ⟨0, true, Nat.zero_le _, .done⟩
      | cons t text => exact ⟨0, false, Nat.zero_le _, .textLeft⟩
  | cons g glob ih =>
      by_cases hstar : g = star
      · rw [hstar]
        exact exists_settles_star ih text
      · cases text with
        | nil => exact ⟨0, false, Nat.zero_le _, .short hstar⟩
        | cons t text =>
            obtain ⟨n, b, hn, hsettles⟩ := ih text
            have hle : n + 1 ≤ (g :: glob).length + (t :: text).length := by
              rw [List.length_cons, List.length_cons]
              omega
            by_cases hone : g = one
            · rw [hone] at hle ⊢
              exact ⟨n + 1, b, hle, .one hsettles⟩
            · by_cases hsame : g = t
              · subst hsame
                exact ⟨n + 1, b, hle, .same hstar hone hsettles⟩
              · exact ⟨0, false, Nat.zero_le _, .other hstar hone hsame⟩

/--
**The search ends, and finds what there is to find.** For every glob and every text:

* the text is accepted if and only if it can be cut into pieces, one for each byte of the
  glob in order, where a star takes any piece, a question mark a piece of one byte, and any
  other byte itself;
* the search returns, with calls nested no deeper than glob and text are long together, and
  whatever it returns is whether the text is accepted.
-/
theorem accepts_iff_pieces (glob text : Bytes) :
    (accepts glob text = true
        ↔ ∃ pieces, List.Forall₂ Takes glob pieces ∧ text = pieces.flatten)
      ∧ (∃ n ≤ glob.length + text.length, Settles n glob text (accepts glob text))
      ∧ ∀ n b, Settles n glob text b → b = accepts glob text := by
  refine ⟨?_, ?_, fun n b h => h.eq_accepts⟩
  · rw [accepts_iff_filled]
    constructor
    · exact exists_pieces_of_filled
    · rintro ⟨pieces, htakes, rfl⟩
      exact filled_of_pieces htakes
  · obtain ⟨n, b, hn, hsettles⟩ := exists_settles glob text
    rw [hsettles.eq_accepts] at hsettles
    exact ⟨n, hn, hsettles⟩

end SocketStrategies.Glob
