import Mathlib.Data.List.InsertIdx
import SocketStrategies.Strategies.Step

/-!
# What the steps of a builder do

Whatever a step does to a builder, it does it to three parts by themselves. The encoders, the
decoders, the kind of the buffer factory and the adapter registry after the step come from the
same four before it; the route matcher is written or left alone, and so is the metadata extractor.
`Action` is a step seen in this way, and all that is said of many steps is said of actions.

Builders are looked at twice. A `Move` is handed the references that it puts into the builder, and
changes the codec lists in any way: what moves do is told by references. A `Step` makes its
objects itself, so that another run makes other objects: what steps do is told by the objects
behind the references. Both are actions, on one type of outlines.
-/

namespace SocketStrategies

/-! ## Arenas that go on -/

namespace Arena

/-- Whether an arena comes of another by giving out references alone. -/
structure GoesOnTo (a a' : Arena) : Prop where
  waiting : a'.waiting = a.waiting
  next : a.next ≤ a'.next

namespace GoesOnTo

variable {a a' a'' : Arena}

theorem refl (a : Arena) : a.GoesOnTo a := ⟨rfl, Nat.le_refl _⟩

theorem trans (h : a.GoesOnTo a') (h' : a'.GoesOnTo a'') : a.GoesOnTo a'' :=
  ⟨h'.waiting.trans h.waiting, Nat.le_trans h.next h'.next⟩

/-- No factory notices. -/
theorem factory_eq (h : a.GoesOnTo a') (r : Shared FactoryKind) : a'.factory r = a.factory r := by
  unfold factory
  rw [h.waiting]

end GoesOnTo

theorem goesOnTo_share {α : Type} (a : Arena) (v : α) : a.GoesOnTo (a.share v).2 :=
  ⟨rfl, Nat.le_succ _⟩

end Arena

namespace ListEdit

variable {α : Type}

theorem goesOnTo_share (edit : ListEdit α) (a : Arena) : a.GoesOnTo (edit.share a).2 := by
  cases edit with
  | insert i x => exact a.goesOnTo_share x
  | _ => exact .refl a

theorem map_swapAt {β : Type} (f : α → β) (l : List α) (i j : Nat) :
    (swapAt l i j).map f = swapAt (l.map f) i j := by
  unfold swapAt
  rw [List.getElem?_map, List.getElem?_map]
  cases l[i]? with
  | none => rfl
  | some x =>
      cases l[j]? with
      | none => rfl
      | some y =>
          dsimp only [Option.map_some]
          rw [List.map_set, List.map_set]

/-- A change with its new element made shared does to the elements what the change does. -/
theorem map_apply_share (edit : ListEdit α) (a : Arena) (l : List (Shared α)) :
    ((edit.share a).1.apply l).map (·.value) = edit.apply (l.map (·.value)) := by
  cases edit with
  | insert i x => exact List.map_insertIdx _ l i _
  | remove i => exact (List.eraseIdx_map _ l i).symm
  | swap i j => exact map_swapAt _ l i j
  | truncate n => exact List.map_take
  | clear => rfl
  | reverse => exact List.map_reverse
  | duplicate i =>
      dsimp only [share, apply]
      rw [List.map_append, List.getElem?_map, Option.toList_map]

end ListEdit

namespace Strategies

/-! ## Actions on outlines -/

/-- What strategies hand on to a builder that starts from them, the buffer factory by its kind
alone. -/
@[ext]
structure Kept (ε δ ρ : Type) where
  encoders : List ε
  decoders : List δ
  factoryKind : FactoryKind
  adapterRegistry : ρ

/-- What a builder holds. -/
@[ext]
structure Outline (ε δ μ ξ ρ : Type) where
  kept : Kept ε δ ρ
  routeMatcher : Option μ
  metadataExtractor : Option ξ

/-- An outline whose matcher and extractor are unset. -/
def Outline.reset {ε δ μ ξ ρ : Type} (o : Outline ε δ μ ξ ρ) : Outline ε δ μ ξ ρ :=
  ⟨o.kept, none, none⟩

/-- A step of a builder, by what it does to what is handed on and by what it writes of the rest. -/
structure Action (ε δ μ ξ ρ : Type) where
  keep : Kept ε δ ρ → Kept ε δ ρ
  /-- What the matcher is set to, or unset, if it is written at all. -/
  routeMatcher : Option (Option μ)
  /-- What the extractor is set to, or unset, if it is written at all. -/
  metadataExtractor : Option (Option ξ)

/-- The last write among those of several steps. -/
def lastWrite? {α β : Type} (write? : α → Option β) (steps : List α) : Option β :=
  (steps.filterMap write?).getLast?

/-- What is there after a first step is what the later ones write, or else what the first
leaves. -/
theorem lastWrite?_cons {α β : Type} (write? : α → Option β) (x : α) (xs : List α) (v : β) :
    (lastWrite? write? (x :: xs)).getD v = (lastWrite? write? xs).getD ((write? x).getD v) := by
  unfold lastWrite?
  rw [List.filterMap_cons]
  cases write? x with
  | none => rfl
  | some w =>
      dsimp only
      rw [List.getLast?_cons, Option.getD_some, Option.getD_some]

/-- What steps leave in a place that each of them writes or leaves alone. -/
theorem foldl_of_writes {σ α β : Type} {step : σ → α → σ} (get : σ → β) (write? : α → Option β)
    (hstep : ∀ o x, get (step o x) = (write? x).getD (get o)) (xs : List α) (o : σ) :
    get (xs.foldl step o) = (lastWrite? write? xs).getD (get o) := by
  induction xs generalizing o with
  | nil => rfl
  | cons x xs ih => rw [List.foldl_cons, ih, hstep, lastWrite?_cons]

theorem lastWrite?_map {α β γ : Type} (f : γ → α) (write? : α → Option β) (xs : List γ) :
    lastWrite? write? (xs.map f) = lastWrite? (fun x => write? (f x)) xs := by
  unfold lastWrite?
  rw [List.filterMap_map]
  rfl

namespace Action

variable {ε δ μ ξ ρ : Type}

def run (o : Outline ε δ μ ξ ρ) (x : Action ε δ μ ξ ρ) : Outline ε δ μ ξ ρ :=
  ⟨x.keep o.kept, x.routeMatcher.getD o.routeMatcher, x.metadataExtractor.getD o.metadataExtractor⟩

/-- What is handed on after actions does not hang on matcher and extractor. -/
theorem kept_foldl_run (xs : List (Action ε δ μ ξ ρ)) {o o' : Outline ε δ μ ξ ρ}
    (h : o'.kept = o.kept) :
    (xs.foldl run o').kept = (xs.foldl run o).kept := by
  induction xs generalizing o o' with
  | nil => exact h
  | cons x xs ih => exact ih (congrArg x.keep h)

/-- Actions on an outline that was reset: what is handed on is as it would be, and the rest
is written anew. -/
theorem foldl_run_reset (xs : List (Action ε δ μ ξ ρ)) (o : Outline ε δ μ ξ ρ) :
    xs.foldl run o.reset = ⟨(xs.foldl run o).kept, (lastWrite? routeMatcher xs).getD none,
      (lastWrite? metadataExtractor xs).getD none⟩ :=
  Outline.ext (kept_foldl_run xs rfl)
    (foldl_of_writes Outline.routeMatcher routeMatcher (fun _ _ => rfl) xs o.reset)
    (foldl_of_writes Outline.metadataExtractor metadataExtractor (fun _ _ => rfl) xs o.reset)

end Action

/-! ## Builders by their references, and moves -/

/-- What is built from a builder and handed on, by references. A factory that is not set is made
anew. -/
def Builder.kept (b : Builder) : Kept (Shared Encoder) (Shared Decoder) (Shared AdapterRegistry) :=
  ⟨b.encoders, b.decoders, (b.bufferFactory.map (·.value)).getD .standard, b.adapterRegistry⟩

def Builder.outline (b : Builder) : Outline (Shared Encoder) (Shared Decoder) (Shared RouteMatcher)
    (Shared MetadataExtractor) (Shared AdapterRegistry) :=
  ⟨b.kept, b.routeMatcher, b.metadataExtractor⟩

/-- A step of a builder that is handed its objects. -/
inductive Move where
  | encoder (e : Shared Encoder)
  | decoder (d : Shared Decoder)
  /-- Any change of the list of encoders. -/
  | encoders (edit : List (Shared Encoder) → List (Shared Encoder))
  /-- Any change of the list of decoders. -/
  | decoders (edit : List (Shared Decoder) → List (Shared Decoder))
  | routeMatcher (m : Option (Shared RouteMatcher))
  | metadataExtractor (x : Option (Shared MetadataExtractor))
  | bufferFactory (k : Option (Shared FactoryKind))
  | adapterRegistry (r : Option (Shared AdapterRegistry))

namespace Move

def run (b : Builder) : Move → Except StrategiesError Builder
  | .encoder e => .ok (b.encoder e)
  | .decoder d => .ok (b.decoder d)
  | .encoders edit => .ok (b.editEncoders edit)
  | .decoders edit => .ok (b.editDecoders edit)
  | .routeMatcher m => .ok { b with routeMatcher := m }
  | .metadataExtractor x => .ok { b with metadataExtractor := x }
  | .bufferFactory k => .ok { b with bufferFactory := k }
  | .adapterRegistry r => b.setAdapterRegistry r

/-- Makes moves one after the other up to the first that fails. -/
def runAll (b : Builder) (moves : List Move) : Except StrategiesError Builder := moves.foldlM run b

/-- What a move writes to the matcher. -/
def routeMatcher? : Move → Option (Option (Shared RouteMatcher))
  | .routeMatcher m => some m
  | _ => none

/-- What a move writes to the extractor. -/
def metadataExtractor? : Move → Option (Option (Shared MetadataExtractor))
  | .metadataExtractor x => some x
  | _ => none

/-- What a move that succeeds does to what is handed on. -/
def keep (m : Move) (k : Kept (Shared Encoder) (Shared Decoder) (Shared AdapterRegistry)) :
    Kept (Shared Encoder) (Shared Decoder) (Shared AdapterRegistry) :=
  match m with
  | .encoder e => { k with encoders := k.encoders ++ [e] }
  | .decoder d => { k with decoders := k.decoders ++ [d] }
  | .encoders edit => { k with encoders := edit k.encoders }
  | .decoders edit => { k with decoders := edit k.decoders }
  | .bufferFactory f => { k with factoryKind := (f.map (·.value)).getD .standard }
  | .adapterRegistry r => { k with adapterRegistry := r.getD k.adapterRegistry }
  | .routeMatcher _ | .metadataExtractor _ => k

def action (m : Move) : Action (Shared Encoder) (Shared Decoder) (Shared RouteMatcher)
    (Shared MetadataExtractor) (Shared AdapterRegistry) :=
  ⟨m.keep, m.routeMatcher?, m.metadataExtractor?⟩

theorem outline_run {b b₁ : Builder} {m : Move} (h : m.run b = .ok b₁) :
    b₁.outline = m.action.run b.outline := by
  cases m with
  | adapterRegistry r =>
      cases r with
      | none => cases h
      | some r => cases h; rfl
  | _ => cases h; rfl

/-- Whether a move succeeds does not hang on the builder. -/
theorem run_succeeds {b b₁ : Builder} {m : Move} (h : m.run b = .ok b₁) (b' : Builder) :
    ∃ b'₁, m.run b' = .ok b'₁ := by
  cases m with
  | adapterRegistry r =>
      cases r with
      | none => cases h
      | some r => exact ⟨_, rfl⟩
  | _ => exact ⟨_, rfl⟩

theorem runAll_cons_eq_ok {b b₂ : Builder} {m : Move} {moves : List Move}
    (h : runAll b (m :: moves) = .ok b₂) : ∃ b₁, m.run b = .ok b₁ ∧ runAll b₁ moves = .ok b₂ := by
  rw [runAll, List.foldlM_cons] at h
  cases hm : m.run b with
  | error e => rw [hm] at h; cases h
  | ok b₁ => rw [hm] at h; exact ⟨b₁, rfl, h⟩

theorem runAll_of_run {b b₁ : Builder} {m : Move} (h : m.run b = .ok b₁) (moves : List Move) :
    runAll b (m :: moves) = runAll b₁ moves := by
  rw [runAll, List.foldlM_cons, h]
  rfl

theorem runAll_append {b b₁ : Builder} {A : List Move} (h : runAll b A = .ok b₁) (B : List Move) :
    runAll b (A ++ B) = runAll b₁ B := by
  rw [runAll, List.foldlM_append]
  change (runAll b A >>= _) = _
  rw [h]
  rfl

theorem outline_runAll {b b₁ : Builder} {moves : List Move} (h : runAll b moves = .ok b₁) :
    b₁.outline = (moves.map action).foldl Action.run b.outline := by
  induction moves generalizing b with
  | nil => cases h; rfl
  | cons m moves ih =>
      obtain ⟨b', hm, hrest⟩ := runAll_cons_eq_ok h
      rw [ih hrest, outline_run hm]
      rfl

theorem runAll_succeeds {b b₁ : Builder} {moves : List Move} (h : runAll b moves = .ok b₁)
    (b' : Builder) :
    ∃ b'₁, runAll b' moves = .ok b'₁ := by
  induction moves generalizing b b' with
  | nil => exact ⟨b', rfl⟩
  | cons m moves ih =>
      obtain ⟨c, hm, hrest⟩ := runAll_cons_eq_ok h
      obtain ⟨c', hm'⟩ := run_succeeds hm b'
      rw [runAll_of_run hm']
      exact ih hrest c'

end Move

/-! ## Builders by their objects, and steps -/

/-- What is handed on, by the objects behind the references. -/
def Kept.values (k : Kept (Shared Encoder) (Shared Decoder) (Shared AdapterRegistry)) :
    Kept Encoder Decoder AdapterRegistry :=
  ⟨k.encoders.map (·.value), k.decoders.map (·.value), k.factoryKind, k.adapterRegistry.value⟩

def Builder.values (b : Builder) :
    Outline Encoder Decoder RouteMatcher MetadataExtractor AdapterRegistry :=
  ⟨b.kept.values, b.routeMatcher.map (·.value), b.metadataExtractor.map (·.value)⟩

theorem shareOptional_value {α : Type} (a : Arena) (v : Option α) :
    (shareOptional a v).1.map (·.value) = v := by
  cases v with
  | none => rfl
  | some v => rfl

theorem goesOnTo_shareOptional {α : Type} (a : Arena) (v : Option α) :
    a.GoesOnTo (shareOptional a v).2 := by
  cases v with
  | none => exact .refl a
  | some v => exact a.goesOnTo_share v

namespace Step

/-- What a step writes to the matcher. -/
def routeMatcher? : Step → Option (Option RouteMatcher)
  | .routeMatcher m => some m
  | _ => none

/-- What a step writes to the extractor. -/
def metadataExtractor? : Step → Option (Option MetadataExtractor)
  | .metadataExtractor x => some x
  | _ => none

/-- What a step that succeeds does to what is handed on. -/
def keep (s : Step) (k : Kept Encoder Decoder AdapterRegistry) :
    Kept Encoder Decoder AdapterRegistry :=
  match s with
  | .encoder e => { k with encoders := k.encoders ++ [e] }
  | .decoder d => { k with decoders := k.decoders ++ [d] }
  | .encoders edit => { k with encoders := edit.apply k.encoders }
  | .decoders edit => { k with decoders := edit.apply k.decoders }
  | .bufferFactory f => { k with factoryKind := f.getD .standard }
  | .adapterRegistry .shared => { k with adapterRegistry := AdapterRegistry.shared.value }
  | .adapterRegistry (.fresh r) => { k with adapterRegistry := r }
  | .routeMatcher _ | .metadataExtractor _ | .adapterRegistry .missing | .fail _ => k

def action (s : Step) : Action Encoder Decoder RouteMatcher MetadataExtractor AdapterRegistry :=
  ⟨s.keep, s.routeMatcher?, s.metadataExtractor?⟩

variable {b b₁ : Builder} {a a₁ : Arena} {s : Step} {steps : List Step}

theorem values_run (h : s.run b a = (.ok b₁, a₁)) : b₁.values = s.action.run b.values := by
  cases s with
  | encoder e => cases h; exact Outline.ext (Kept.ext List.map_append rfl rfl rfl) rfl rfl
  | decoder d => cases h; exact Outline.ext (Kept.ext rfl List.map_append rfl rfl) rfl rfl
  | encoders edit =>
      cases h; exact Outline.ext (Kept.ext (edit.map_apply_share a _) rfl rfl rfl) rfl rfl
  | decoders edit =>
      cases h; exact Outline.ext (Kept.ext rfl (edit.map_apply_share a _) rfl rfl) rfl rfl
  | routeMatcher m => cases h; exact Outline.ext rfl (shareOptional_value a m) rfl
  | metadataExtractor x => cases h; exact Outline.ext rfl rfl (shareOptional_value a x)
  | bufferFactory k =>
      cases h
      have hkind := congrArg (Option.getD · FactoryKind.standard) (shareOptional_value a k)
      exact Outline.ext (Kept.ext rfl rfl hkind rfl) rfl rfl
  | adapterRegistry r =>
      cases r with
      | missing => cases h
      | _ => cases h; rfl
  | fail message => cases h

/-- Whether a step succeeds hangs neither on the builder nor on the arena. -/
theorem run_succeeds (h : s.run b a = (.ok b₁, a₁)) (b' : Builder) (a' : Arena) :
    ∃ b'₁ a'₁, s.run b' a' = (.ok b'₁, a'₁) := by
  cases s with
  | adapterRegistry r =>
      cases r with
      | missing => cases h
      | _ => exact ⟨_, _, rfl⟩
  | fail message => cases h
  | _ => exact ⟨_, _, rfl⟩

theorem goesOnTo_run (s : Step) (b : Builder) (a : Arena) : a.GoesOnTo (s.run b a).2 := by
  cases s with
  | encoder e => exact a.goesOnTo_share e
  | decoder d => exact a.goesOnTo_share d
  | encoders edit => exact edit.goesOnTo_share a
  | decoders edit => exact edit.goesOnTo_share a
  | routeMatcher m => exact goesOnTo_shareOptional a m
  | metadataExtractor x => exact goesOnTo_shareOptional a x
  | bufferFactory k => exact goesOnTo_shareOptional a k
  | adapterRegistry r =>
      cases r with
      | fresh r => exact a.goesOnTo_share r
      | _ => exact .refl a
  | fail message => exact .refl a

theorem runAll_of_run (h : s.run b a = (.ok b₁, a₁)) (steps : List Step) :
    runAll b a (s :: steps) = runAll b₁ a₁ steps := by
  rw [runAll, h]

theorem runAll_cons_eq_ok {b₂ : Builder} {a₂ : Arena}
    (h : runAll b a (s :: steps) = (.ok b₂, a₂)) :
    ∃ b₁ a₁, s.run b a = (.ok b₁, a₁) ∧ runAll b₁ a₁ steps = (.ok b₂, a₂) := by
  rw [runAll] at h
  rcases hs : s.run b a with ⟨e | b₁, a₁⟩
  · rw [hs] at h; cases h
  · rw [hs] at h; exact ⟨b₁, a₁, rfl, h⟩

theorem runAll_append {A : List Step} (h : runAll b a A = (.ok b₁, a₁)) (B : List Step) :
    runAll b a (A ++ B) = runAll b₁ a₁ B := by
  induction A generalizing b a with
  | nil => cases h; rfl
  | cons s A ih =>
      obtain ⟨b', a', hs, hrest⟩ := runAll_cons_eq_ok h
      rw [List.cons_append, runAll_of_run hs]
      exact ih hrest

theorem values_runAll (h : runAll b a steps = (.ok b₁, a₁)) :
    b₁.values = (steps.map action).foldl Action.run b.values := by
  induction steps generalizing b a with
  | nil => cases h; rfl
  | cons s steps ih =>
      obtain ⟨b', a', hs, hrest⟩ := runAll_cons_eq_ok h
      rw [ih hrest, values_run hs]
      rfl

theorem runAll_succeeds (h : runAll b a steps = (.ok b₁, a₁)) (b' : Builder) (a' : Arena) :
    ∃ b'₁ a'₁, runAll b' a' steps = (.ok b'₁, a'₁) := by
  induction steps generalizing b a b' a' with
  | nil => exact ⟨b', a', rfl⟩
  | cons s steps ih =>
      obtain ⟨c, d, hs, hrest⟩ := runAll_cons_eq_ok h
      obtain ⟨c', d', hs'⟩ := run_succeeds hs b' a'
      rw [runAll_of_run hs']
      exact ih hrest c' d'

theorem goesOnTo_runAll (b : Builder) (a : Arena) (steps : List Step) :
    a.GoesOnTo (runAll b a steps).2 := by
  induction steps generalizing b a with
  | nil => exact .refl a
  | cons s steps ih =>
      have hgoes := goesOnTo_run s b a
      rw [runAll]
      rcases hs : s.run b a with ⟨e | b₁, a₁⟩
      · rw [hs] at hgoes; exact hgoes
      · rw [hs] at hgoes; exact hgoes.trans (ih b₁ a₁)

end Step

end Strategies

end SocketStrategies
