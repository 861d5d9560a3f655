import SocketStrategies.Proofs.Strategies.Actions

/-!
# Building and mutating in the middle

Strategies can be built halfway and mutated into a builder again. Such a round forgets the route
matcher and the metadata extractor and keeps the rest, and a second round has nothing left to
forget. What later steps do to the rest hangs on the rest alone, and what they write to the other
two they write in any case. So the steps of the second half lead to the same encoders, decoders
and registry with or without rounds before them, and to a factory of the same kind; the matcher
and the extractor are theirs, or else the standard ones.

A factory that is unset in the middle is made by the round and handed on from there, and made at
the end without the round. That is why only its kind is the same.
-/

namespace SocketStrategies

namespace Strategies

/-! ## What is built -/

/-- What strategies hand on, by references. -/
def kept (s : Strategies) : Kept (Shared Encoder) (Shared Decoder) (Shared AdapterRegistry) :=
  ⟨s.encoders, s.decoders, s.bufferFactory.value, s.adapterRegistry⟩

/-- Whether a reference is what was set, or else to a standard object that the arena had not given
out. -/
inductive FilledIn {α : Type} (a : Arena) (standard : α) :
    Option (Shared α) → Shared α → Prop where
  | set (r : Shared α) : FilledIn a standard (some r) r
  | new {r : Shared α} : r.value = standard → a.next ≤ r.id → FilledIn a standard none r

section Filling

variable {α : Type} {a a' : Arena} {standard : α} {set : Option (Shared α)} {r : Shared α}

theorem FilledIn.value (h : FilledIn a standard set r) :
    r.value = (set.map (·.value)).getD standard := by
  cases h with
  | set => rfl
  | new hvalue _ => exact hvalue

theorem FilledIn.of_goesOnTo (h : FilledIn a' standard set r) (hgoes : a.GoesOnTo a') :
    FilledIn a standard set r := by
  cases h with
  | set => exact .set r
  | new hvalue hid => exact .new hvalue (Nat.le_trans hgoes.next hid)

namespace Builder

theorem filledIn_orNew (a : Arena) (set : Option (Shared α)) (standard : α) :
    FilledIn a standard set (orNew a set standard).1 := by
  cases set with
  | some r => exact .set r
  | none => exact .new rfl (Nat.le_refl _)

theorem goesOnTo_orNew (a : Arena) (set : Option (Shared α)) (standard : α) :
    a.GoesOnTo (orNew a set standard).2 := by
  cases set with
  | some r => exact .refl a
  | none => exact a.goesOnTo_share standard

end Builder

end Filling

namespace Builder

theorem filledIn_routeMatcher_build (b : Builder) (a : Arena) :
    FilledIn a .dot b.routeMatcher (b.build a).1.routeMatcher :=
  filledIn_orNew a b.routeMatcher .dot

theorem filledIn_metadataExtractor_build (b : Builder) (a : Arena) :
    FilledIn a .standard b.metadataExtractor (b.build a).1.metadataExtractor :=
  (filledIn_orNew _ b.metadataExtractor .standard).of_goesOnTo
    (goesOnTo_orNew a b.routeMatcher .dot)

theorem kept_build (b : Builder) (a : Arena) : (b.build a).1.kept = b.kept :=
  Kept.ext rfl rfl (filledIn_orNew _ b.bufferFactory .standard).value rfl

theorem goesOnTo_build (b : Builder) (a : Arena) : a.GoesOnTo (b.build a).2 :=
  ((goesOnTo_orNew a b.routeMatcher .dot).trans
    (goesOnTo_orNew _ b.metadataExtractor .standard)).trans
    (goesOnTo_orNew _ b.bufferFactory .standard)

/-! ## Rounds -/

/-- Builds, and starts a builder from what was built. -/
def rebuild (b : Builder) (a : Arena) : Builder × Arena :=
  let (s, a) := b.build a
  (s.mutate, a)

/-- Builds and starts anew so many times. -/
def rebuilt (b : Builder) (a : Arena) : Nat → Builder × Arena
  | 0 => (b, a)
  | n + 1 =>
      let (b, a) := b.rebuild a
      b.rebuilt a n

theorem outline_rebuild (b : Builder) (a : Arena) : (b.rebuild a).1.outline = b.outline.reset :=
  Outline.ext (kept_build b a) rfl rfl

/-- After one round everything that a round makes anew is unset, or made. -/
theorem rebuild_rebuild (b : Builder) (a a' : Arena) :
    ((b.rebuild a).1.rebuild a').1 = (b.rebuild a).1 := rfl

/-- Further rounds change nothing. -/
theorem rebuilt_succ (b : Builder) (a : Arena) (n : Nat) :
    (b.rebuilt a (n + 1)).1 = (b.rebuild a).1 := by
  induction n generalizing b a with
  | zero => rfl
  | succ n ih => rw [rebuilt, ih, rebuild_rebuild]

theorem outline_rebuilt (b : Builder) (a : Arena) (n : Nat) :
    (b.rebuilt a (n + 1)).1.outline = b.outline.reset := by
  rw [rebuilt_succ, outline_rebuild]

theorem goesOnTo_rebuilt (b : Builder) (a : Arena) (n : Nat) : a.GoesOnTo (b.rebuilt a n).2 := by
  induction n generalizing b a with
  | zero => exact .refl a
  | succ n ih => exact (goesOnTo_build b a).trans (ih _ _)

end Builder

/-! ## The second half -/

/-- What moves leave set as the matcher of a builder that had none. -/
def Move.matcherLeft (moves : List Move) : Option (Shared RouteMatcher) :=
  (lastWrite? Move.routeMatcher? moves).getD none

/-- What moves leave set as the extractor of a builder that had none. -/
def Move.extractorLeft (moves : List Move) : Option (Shared MetadataExtractor) :=
  (lastWrite? Move.metadataExtractor? moves).getD none

/-- Moves after rounds succeed if they do without, and leave the same but for matcher and
extractor. -/
theorem Move.runAll_rebuilt {b direct : Builder} {moves : List Move}
    (h : runAll b moves = .ok direct) (a : Arena) (n : Nat) :
    ∃ late, runAll (b.rebuilt a (n + 1)).1 moves = .ok late
      ∧ late.outline = ⟨direct.kept, matcherLeft moves, extractorLeft moves⟩ := by
  obtain ⟨late, hlate⟩ := runAll_succeeds h (b.rebuilt a (n + 1)).1
  refine ⟨late, hlate, ?_⟩
  rw [outline_runAll hlate, Builder.outline_rebuilt, Action.foldl_run_reset, ← outline_runAll h,
    lastWrite?_map, lastWrite?_map]
  rfl

/-- What steps leave set as the matcher of a builder that had none. -/
def Step.matcherLeft (steps : List Step) : Option RouteMatcher :=
  (lastWrite? Step.routeMatcher? steps).getD none

/-- What steps leave set as the extractor of a builder that had none. -/
def Step.extractorLeft (steps : List Step) : Option MetadataExtractor :=
  (lastWrite? Step.metadataExtractor? steps).getD none

theorem Builder.values_rebuilt (b : Builder) (a : Arena) (n : Nat) :
    (b.rebuilt a (n + 1)).1.values = b.values.reset := by
  rw [rebuilt_succ]
  exact Outline.ext (congrArg Kept.values (kept_build b a)) rfl rfl

/-- Steps after rounds succeed if they do without, and leave the same but for matcher and
extractor. -/
theorem Step.runAll_rebuilt {b direct : Builder} {a a₁ : Arena} {steps : List Step}
    (h : runAll b a steps = (.ok direct, a₁)) (n : Nat) :
    ∃ late a₂, runAll (b.rebuilt a (n + 1)).1 (b.rebuilt a (n + 1)).2 steps = (.ok late, a₂)
      ∧ late.values = ⟨direct.kept.values, matcherLeft steps, extractorLeft steps⟩ := by
  obtain ⟨late, a₂, hlate⟩ := runAll_succeeds h (b.rebuilt a (n + 1)).1 (b.rebuilt a (n + 1)).2
  refine ⟨late, a₂, hlate, ?_⟩
  rw [values_runAll hlate, Builder.values_rebuilt, Action.foldl_run_reset, ← values_runAll h,
    lastWrite?_map, lastWrite?_map]
  rfl

/-! ## Strategies of before -/

/-- Whether nothing that belongs to strategies changed from one arena to a later one: neither
the buffers that wait in their factory, nor what is seen of them, and new references are none
of the old ones. -/
structure Untouched (s : Strategies) (a a' : Arena) : Prop where
  factory : a'.factory s.bufferFactory = a.factory s.bufferFactory
  inspect : s.inspect a' = s.inspect a
  next : a.next ≤ a'.next

theorem untouched_of_goesOnTo (s : Strategies) {a a' : Arena} (h : a.GoesOnTo a') :
    s.Untouched a a' := by
  refine ⟨h.factory_eq _, ?_, h.next⟩
  unfold inspect
  rw [h.factory_eq]

/-! ## Rounds are transparent -/

/--
**A round of building and mutating is transparent.** A builder does the steps of `A` and
then those of `B`, once straight on and once with any number of rounds in between, one at
least. Moves are steps with given objects and any change of the codec lists; steps of `Step`
make their objects.

* The second run succeeds too. What is built at its end has the encoders, the decoders and the
  adapter registry of the first, and a buffer factory of the same kind: by references for moves,
  by the objects for steps.
* Its route matcher and its metadata extractor are what `B` left set, whatever `A` did, or
  new standard ones.
* Rounds after the first change nothing in the builder, down to the references.
* Nothing that belongs to earlier strategies changes: not by steps, not by rounds and not by
  building.
-/
theorem rebuild_transparent :
    (∀ (b mid direct : Builder) (A B : List Move),
      Move.runAll b A = .ok mid → Move.runAll b (A ++ B) = .ok direct → ∀ (a : Arena) (n : Nat),
      ∃ late, Move.runAll (mid.rebuilt a (n + 1)).1 B = .ok late
        ∧ ∀ a₁ a₂, (late.build a₂).1.kept = (direct.build a₁).1.kept
          ∧ FilledIn a₂ .dot (Move.matcherLeft B) (late.build a₂).1.routeMatcher
          ∧ FilledIn a₂ .standard (Move.extractorLeft B) (late.build a₂).1.metadataExtractor)
    ∧ (∀ (b mid direct : Builder) (a a₁ a₂ : Arena) (A B : List Step),
      Step.runAll b a A = (.ok mid, a₁) → Step.runAll b a (A ++ B) = (.ok direct, a₂) → ∀ n : Nat,
      ∃ late a₃, Step.runAll (mid.rebuilt a₁ (n + 1)).1 (mid.rebuilt a₁ (n + 1)).2 B
        = (.ok late, a₃)
        ∧ (late.build a₃).1.kept.values = (direct.build a₂).1.kept.values
        ∧ (late.build a₃).1.routeMatcher.value = (Step.matcherLeft B).getD .dot
        ∧ (late.build a₃).1.metadataExtractor.value = (Step.extractorLeft B).getD .standard)
    ∧ (∀ (b : Builder) (a : Arena) (n : Nat), (b.rebuilt a (n + 1)).1 = (b.build a).1.mutate)
    ∧ ∀ (s : Strategies) (b : Builder) (a : Arena),
      (∀ steps, s.Untouched a (Step.runAll b a steps).2)
        ∧ (∀ n, s.Untouched a (b.rebuilt a n).2) ∧ s.Untouched a (b.build a).2 := by
  refine ⟨?_, ?_, fun b a n => b.rebuilt_succ a n, fun s b a => ⟨fun steps => ?_, fun n => ?_, ?_⟩⟩
  · intro b mid direct A B hmid hdirect a n
    rw [Move.runAll_append hmid] at hdirect
    obtain ⟨late, hlate, houtline⟩ := Move.runAll_rebuilt hdirect a n
    have hmatcher : late.routeMatcher = Move.matcherLeft B :=
      congrArg Outline.routeMatcher houtline
    have hextractor : late.metadataExtractor = Move.extractorLeft B :=
      congrArg Outline.metadataExtractor houtline
    refine ⟨late, hlate, fun a₁ a₂ => ⟨?_, ?_, ?_⟩⟩
    · rw [Builder.kept_build, Builder.kept_build]
      exact congrArg Outline.kept houtline
    · rw [← hmatcher]
      exact late.filledIn_routeMatcher_build a₂
    · rw [← hextractor]
      exact late.filledIn_metadataExtractor_build a₂
  · intro b mid direct a a₁ a₂ A B hmid hdirect n
    rw [Step.runAll_append hmid] at hdirect
    obtain ⟨late, a₃, hlate, hvalues⟩ := Step.runAll_rebuilt hdirect n
    have hmatcher : late.routeMatcher.map (·.value) = Step.matcherLeft B :=
      congrArg Outline.routeMatcher hvalues
    have hextractor : late.metadataExtractor.map (·.value) = Step.extractorLeft B :=
      congrArg Outline.metadataExtractor hvalues
    refine ⟨late, a₃, hlate, ?_, ?_, ?_⟩
    · rw [Builder.kept_build, Builder.kept_build]
      exact congrArg Outline.kept hvalues
    · rw [(late.filledIn_routeMatcher_build a₃).value, hmatcher]
    · rw [(late.filledIn_metadataExtractor_build a₃).value, hextractor]
  · exact s.untouched_of_goesOnTo (Step.goesOnTo_runAll b a steps)
  · exact s.untouched_of_goesOnTo (b.goesOnTo_rebuilt a n)
  · exact s.untouched_of_goesOnTo (b.goesOnTo_build a)

/-! ### A matcher of the first half and a factory of the second -/

/-- Steps that choose a matcher, an extractor and a registry, and lay out the codecs. -/
def firstHalf : List Step :=
  [.routeMatcher (some .slash), .metadataExtractor (some .empty), .encoder (.text .all),
    .encoders (.insert 0 (.raw .owned)), .adapterRegistry (.fresh .empty)]

/-- Steps that take the extractor away, choose a factory and turn the encoders round. -/
def secondHalf : List Step :=
  [.encoders .reverse, .bufferFactory (some .heap), .metadataExtractor none]

/-- Moves that choose a matcher and a factory. -/
def firstMoves : List Move := [.routeMatcher (some ⟨5, .slash⟩), .bufferFactory (some ⟨6, .heap⟩)]

/-- Moves that choose an extractor, and put one encoder on either side of those there are. -/
def secondMoves : List Move :=
  [.metadataExtractor (some ⟨7, .empty⟩),
    .encoders fun es => ⟨8, .raw .owned⟩ :: es ++ [⟨9, .text .all⟩]]

/-- With two rounds in between, the matcher of the first half is gone. -/
theorem rebuild_transparent_halves :
    (∃ mid direct late, Move.runAll .empty firstMoves = .ok mid
        ∧ Move.runAll .empty (firstMoves ++ secondMoves) = .ok direct
        ∧ Move.runAll (mid.rebuilt .initial 2).1 secondMoves = .ok late
        ∧ (late.build .initial).1.kept = (direct.build .initial).1.kept
        ∧ (direct.build .initial).1.routeMatcher.value = .slash
        ∧ (late.build .initial).1.routeMatcher.value = .dot)
    ∧ ∃ mid direct late a₁ a₂ a₃, Step.runAll .empty .initial firstHalf = (.ok mid, a₁)
        ∧ Step.runAll .empty .initial (firstHalf ++ secondHalf) = (.ok direct, a₂)
        ∧ Step.runAll (mid.rebuilt a₁ 2).1 (mid.rebuilt a₁ 2).2 secondHalf = (.ok late, a₃)
        ∧ (late.build a₃).1.kept.values = ⟨[.text .all, .raw .owned], [], .heap, .empty⟩
        ∧ (direct.build a₂).1.routeMatcher.value = .slash
        ∧ (late.build a₃).1.routeMatcher.value = .dot := by
  obtain ⟨hmoves, hsteps, -, -⟩ := rebuild_transparent
  constructor
  · obtain ⟨late, hlate, hbuilt⟩ := hmoves .empty _ _ firstMoves secondMoves rfl rfl .initial 1
    obtain ⟨hkept, hmatcher, -⟩ := hbuilt .initial .initial
    exact ⟨_, _, late, rfl, rfl, hlate, hkept, rfl, hmatcher.value⟩
  · obtain ⟨late, a₃, hlate, hkept, hmatcher, -⟩ :=
      hsteps .empty _ _ .initial _ _ firstHalf secondHalf rfl rfl 1
    exact ⟨_, _, late, _, _, a₃, rfl, rfl, hlate, hkept, rfl, hmatcher⟩

end Strategies

end SocketStrategies
