import SocketStrategies.Connection.Plan
import SocketStrategies.Proofs.Metadata.Route

/-!
# The course of an attempt to connect

`connect` runs six stages, and each of them may end the attempt. `Course` says what an attempt
does without running it: there is one rule for each way to end, and the premises of a rule are
that the stages before went well and that this one did not.

The rules exclude each other and leave nothing out, so reading them in order gives the precedence
of errors: a strategies configurer before a connector configurer, then the data format, then the
setup route, then the transport. Who is called is part of the course. Configurers are called in
the order in which they were added, once each, up to the first that fails; the transport is called
once, and only after everything else is settled.
-/

namespace SocketStrategies

/-! ## Callbacks that may fail -/

section Callbacks

variable {φ σ ε : Type}

/-- Each callback succeeds in turn, and together they lead from one state to another. -/
inductive Passes (step : φ → σ → Except ε σ) : List φ → σ → σ → Prop where
  | nil {x : σ} : Passes step [] x x
  | cons {f : φ} {fs : List φ} {x y z : σ} :
      step f x = .ok y → Passes step fs y z → Passes step (f :: fs) x z

/-- The callbacks before a position succeed in turn, and the one at the position fails. -/
inductive FailsAt (step : φ → σ → Except ε σ) : List φ → σ → Nat → ε → Prop where
  | here {f : φ} {fs : List φ} {x : σ} {e : ε} :
      step f x = .error e → FailsAt step (f :: fs) x 0 e
  | there {f : φ} {fs : List φ} {x y : σ} {i : Nat} {e : ε} :
      step f x = .ok y → FailsAt step fs y i e → FailsAt step (f :: fs) x (i + 1) e

theorem passes_or_failsAt (step : φ → σ → Except ε σ) (fs : List φ) (x : σ) :
    (∃ y, Passes step fs x y) ∨ ∃ i e, FailsAt step fs x i e := by
  induction fs generalizing x with
  | nil => exact Or.inl ⟨x, .nil⟩
  | cons f fs ih =>
      cases hf : step f x with
      | error e => exact Or.inr ⟨0, e, .here hf⟩
      | ok y =>
          rcases ih y with ⟨z, hz⟩ | ⟨i, e, he⟩
          · exact Or.inl ⟨z, .cons hf hz⟩
          · exact Or.inr ⟨i + 1, e, .there hf he⟩

end Callbacks

/-! ## How attempts end -/

namespace Attempt

variable {ε α β : Type}

/-- Who was called in an attempt, and what came of it. -/
structure Ends (x : Attempt ε α) (calls : List Call) (outcome : Except ε α) : Prop where
  calls : x.calls = calls
  outcome : x.outcome = outcome

theorem ends_quiet (result : Except ε α × Arena) : (quiet result).Ends [] result.1 := ⟨rfl, rfl⟩

theorem Ends.andThen_error {x : Attempt ε α} {calls : List Call} {e : ε}
    (h : x.Ends calls (.error e)) (next : α → Arena → Attempt ε β) :
    (x.andThen next).Ends calls (.error e) := by
  unfold andThen
  rw [h.outcome]
  exact ⟨h.calls, rfl⟩

/-- A stage that succeeds leaves the rest to the next, whatever became of the shared objects. -/
theorem Ends.andThen_ok {x : Attempt ε α} {calls calls' : List Call} {v : α}
    {outcome : Except ε β} {next : α → Arena → Attempt ε β} (h : x.Ends calls (.ok v))
    (hnext : ∀ a, (next v a).Ends calls' outcome) :
    (x.andThen next).Ends (calls ++ calls') outcome := by
  have hn := hnext x.arena
  unfold andThen
  rw [h.outcome, h.calls]
  exact ⟨congrArg (calls ++ ·) hn.calls, hn.outcome⟩

theorem Ends.after {x : Attempt ε α} {calls : List Call} {outcome : Except ε α}
    (h : x.Ends calls outcome) (call : Call) : (x.after call).Ends (call :: calls) outcome :=
  ⟨congrArg (call :: ·) h.calls, h.outcome⟩

end Attempt

namespace ConnectPlan

variable {κ τ : Type}

/-! ## Running configurers -/

/-- What a strategies configurer does to a builder. -/
def changeStrategies (f : StrategiesConfigurer) (x : Strategies.Builder × Arena) :
    Except ConfigurerFailure (Strategies.Builder × Arena) :=
  match f x.1 x.2 with
  | (.ok b, a) => .ok (b, a)
  | (.error e, _) => .error e

/-- What a connector configurer does to the settings, shown these strategies. -/
def changeConnector (s : Strategies) (f : ConnectorConfigurer) (c : Connector) :
    Except ConfigurerFailure Connector := f c s

/-- So many strategies configurers are called in turn, from a number on. -/
def strategiesCalls (first count : Nat) : List Call :=
  (List.range' first count).map .strategiesConfigurer

/-- So many connector configurers are called in turn, from a number on, and shown these
strategies. -/
def connectorCalls (s : Strategies) (first count : Nat) : List Call :=
  (List.range' first count).map fun i => .connectorConfigurer i s

theorem changeStrategies_eq_ok {f : StrategiesConfigurer} {x y : Strategies.Builder × Arena}
    (h : changeStrategies f x = .ok y) : f x.1 x.2 = (.ok y.1, y.2) := by
  unfold changeStrategies at h
  split at h
  · rename_i b a hf
    rw [hf, ← Except.ok.inj h]
  · exact absurd h (by simp)

theorem changeStrategies_eq_error {f : StrategiesConfigurer} {x : Strategies.Builder × Arena}
    {e : ConfigurerFailure} (h : changeStrategies f x = .error e) :
    ∃ a, f x.1 x.2 = (.error e, a) := by
  unfold changeStrategies at h
  split at h
  · exact absurd h (by simp)
  · rename_i e' a hf
    exact ⟨a, by rw [hf, Except.error.inj h]⟩

theorem runStrategiesConfigurers_of_passes {fs : List StrategiesConfigurer}
    {x y : Strategies.Builder × Arena} (h : Passes changeStrategies fs x y) (k : Nat) :
    runStrategiesConfigurers (τ := τ) k x.1 x.2 fs
      = ⟨strategiesCalls k fs.length, y.2, .ok y.1⟩ := by
  induction h generalizing k with
  | nil => rfl
  | cons hf _ ih =>
      rw [runStrategiesConfigurers, changeStrategies_eq_ok hf]
      dsimp only
      rw [ih (k + 1)]
      rfl

theorem runStrategiesConfigurers_of_failsAt {fs : List StrategiesConfigurer}
    {x : Strategies.Builder × Arena} {i : Nat} {e : ConfigurerFailure}
    (h : FailsAt changeStrategies fs x i e) (k : Nat) :
    (runStrategiesConfigurers (τ := τ) k x.1 x.2 fs).Ends
      (strategiesCalls k (i + 1)) (.error (.configurer .strategies (k + i) e)) := by
  induction h generalizing k with
  | here hf =>
      obtain ⟨a, ha⟩ := changeStrategies_eq_error hf
      rw [runStrategiesConfigurers, ha]
      exact ⟨rfl, rfl⟩
  | @there _ _ _ _ i _ hf _ ih =>
      -- the rest is counted from one further on
      have hnext := (ih (k + 1)).after (.strategiesConfigurer k)
      rw [runStrategiesConfigurers, changeStrategies_eq_ok hf]
      rw [Nat.add_right_comm] at hnext
      exact hnext

theorem runConnectorConfigurers_of_passes {s : Strategies} {fs : List ConnectorConfigurer}
    {c c' : Connector} (h : Passes (changeConnector s) fs c c') (k : Nat) (a : Arena) :
    (runConnectorConfigurers (τ := τ) k c s a fs).Ends
      (connectorCalls s k fs.length) (.ok c') := by
  induction h generalizing k with
  | nil => exact ⟨rfl, rfl⟩
  | cons hf _ ih =>
      rw [changeConnector] at hf
      rw [runConnectorConfigurers, hf]
      exact (ih (k + 1)).after (.connectorConfigurer k s)

theorem runConnectorConfigurers_of_failsAt {s : Strategies} {fs : List ConnectorConfigurer}
    {c : Connector} {i : Nat} {e : ConfigurerFailure} (h : FailsAt (changeConnector s) fs c i e)
    (k : Nat) (a : Arena) :
    (runConnectorConfigurers (τ := τ) k c s a fs).Ends
      (connectorCalls s k (i + 1)) (.error (.configurer .connector (k + i) e)) := by
  induction h generalizing k with
  | here hf =>
      rw [changeConnector] at hf
      rw [runConnectorConfigurers, hf]
      exact ⟨rfl, rfl⟩
  | @there _ _ _ _ i _ hf _ ih =>
      have hnext := (ih (k + 1)).after (.connectorConfigurer k s)
      rw [changeConnector] at hf
      rw [runConnectorConfigurers, hf]
      rw [Nat.add_right_comm] at hnext
      exact hnext

/-! ## The course of an attempt -/

/-- The strategies that an attempt goes by. -/
inductive Assembled (p : ConnectPlan) (a : Arena) : Strategies → Prop where
  /-- Without configurers they are the given ones, or new ones. -/
  | asGiven : p.strategiesConfigurers = [] → Assembled p a (p.givenStrategies a).1
  /-- Else they are built from what the configurers made of the builder. -/
  | configured {x : Strategies.Builder × Arena} : p.strategiesConfigurers ≠ [] →
      Passes changeStrategies p.strategiesConfigurers (p.startBuilder a) x →
      Assembled p a (x.1.build x.2).1

/-- All configurers succeed; they leave these strategies and these settings. -/
structure Configured (p : ConnectPlan) (a : Arena) (s : Strategies) (c : Connector) : Prop where
  assembled : Assembled p a s
  passes : Passes (changeConnector s) p.connectorConfigurers .default c

/-- The data format is this one: it was chosen, or the decoders stand for it. -/
def SettledDataType (p : ConnectPlan) (s : Strategies) (m : MediaType) : Prop :=
  p.dataType = some m ∨ p.dataType = none ∧ DataFormat.resolve (s.decoders.map (·.value)) = .ok m

/-- There is no setup route, or it fits into metadata of the format. -/
def RouteFits (p : ConnectPlan) : Prop :=
  ∀ route, p.setupRoute = some route → ¬ RouteMetadata.TooLong route p.resolveMetadataType

/-- What the transport is given. -/
def setup (p : ConnectPlan) (s : Strategies) (c : Connector) (m : MediaType) : ConnectionSetup :=
  c.finish m p.resolveMetadataType s.frameDecoding
    ⟨p.setupData, p.setupRoute.map fun route => RouteMetadata.written route p.resolveMetadataType⟩

/-- All configurers are called. -/
def configurerCalls (p : ConnectPlan) (s : Strategies) : List Call :=
  strategiesCalls 0 p.strategiesConfigurers.length
    ++ connectorCalls s 0 p.connectorConfigurers.length

/--
`Course p transport a calls outcome`: carrying out the plan calls these callbacks, first to last,
and ends with this outcome.
-/
inductive Course (p : ConnectPlan) (transport : ConnectionSetup → Except τ κ) (a : Arena) :
    List Call → Except (ConnectError τ) (Requester κ) → Prop where
  | strategiesConfigurerFailed {i : Nat} {e : ConfigurerFailure} :
      FailsAt changeStrategies p.strategiesConfigurers (p.startBuilder a) i e →
      Course p transport a (strategiesCalls 0 (i + 1)) (.error (.configurer .strategies i e))
  /-- A connector configurer fails. -/
  | connectorConfigurerFailed {s : Strategies} {i : Nat} {e : ConfigurerFailure} :
      Assembled p a s → FailsAt (changeConnector s) p.connectorConfigurers .default i e →
      Course p transport a
        (strategiesCalls 0 p.strategiesConfigurers.length ++ connectorCalls s 0 (i + 1))
        (.error (.configurer .connector i e))
  /-- No data format was chosen, and the decoders stand for several. -/
  | ambiguous {s : Strategies} {c : Connector} {e : DataFormat.Ambiguous} :
      Configured p a s c → p.dataType = none →
      DataFormat.resolve (s.decoders.map (·.value)) = .error e →
      Course p transport a (p.configurerCalls s) (.error (.ambiguous e))
  /-- The setup route does not fit. -/
  | routeTooLong {s : Strategies} {c : Connector} {m : MediaType} {route : String} :
      Configured p a s c → SettledDataType p s m → p.setupRoute = some route →
      RouteMetadata.TooLong route p.resolveMetadataType →
      Course p transport a (p.configurerCalls s)
        (.error (.metadata (.tooLong .routeTag (Utf8.length route))))
  | transportFailed {s : Strategies} {c : Connector} {m : MediaType} {e : τ} :
      Configured p a s c → SettledDataType p s m → RouteFits p →
      transport (p.setup s c m) = .error e →
      Course p transport a (p.configurerCalls s ++ [.transport (p.setup s c m)])
        (.error (.transport e))
  | connected {s : Strategies} {c : Connector} {m : MediaType} {connection : κ} :
      Configured p a s c → SettledDataType p s m → RouteFits p →
      transport (p.setup s c m) = .ok connection →
      Course p transport a (p.configurerCalls s ++ [.transport (p.setup s c m)])
        (.ok ⟨connection, p.setup s c m, s⟩)

/-! ## Stage by stage -/

theorem resolveStrategies_of_assembled {p : ConnectPlan} {a : Arena} {s : Strategies}
    (h : Assembled p a s) :
    (p.resolveStrategies (τ := τ) a).Ends (strategiesCalls 0 p.strategiesConfigurers.length)
      (.ok s) := by
  cases h with
  | asGiven hnil =>
      unfold resolveStrategies
      rw [hnil]
      exact ⟨rfl, rfl⟩
  | configured hne hp =>
      have hrun := runStrategiesConfigurers_of_passes (τ := τ) hp 0
      unfold resolveStrategies
      split
      · rename_i hnil
        exact absurd hnil hne
      · dsimp only
        rw [hrun]
        exact ⟨List.append_nil _, rfl⟩

theorem resolveStrategies_of_failsAt {p : ConnectPlan} {a : Arena} {i : Nat}
    {e : ConfigurerFailure}
    (h : FailsAt changeStrategies p.strategiesConfigurers (p.startBuilder a) i e) :
    (p.resolveStrategies (τ := τ) a).Ends (strategiesCalls 0 (i + 1))
      (.error (.configurer .strategies i e)) := by
  have hrun := runStrategiesConfigurers_of_failsAt (τ := τ) h 0
  rw [Nat.zero_add] at hrun
  unfold resolveStrategies
  split
  · rename_i hnil
    rw [hnil] at h
    cases h
  · exact hrun.andThen_error _

theorem resolveDataType_of_settled {p : ConnectPlan} {s : Strategies} {m : MediaType}
    (h : SettledDataType p s m) : p.resolveDataType (τ := τ) s = .ok m := by
  unfold resolveDataType
  rcases h with h | ⟨h, hr⟩
  · rw [h]
  · rw [h, Strategies.dataFormat, hr]
    rfl

theorem resolveDataType_of_ambiguous {p : ConnectPlan} {s : Strategies} {e : DataFormat.Ambiguous}
    (h : p.dataType = none) (hr : DataFormat.resolve (s.decoders.map (·.value)) = .error e) :
    p.resolveDataType (τ := τ) s = .error (.ambiguous e) := by
  rw [resolveDataType, h, Strategies.dataFormat, hr]
  rfl

theorem setupMetadata_of_fits {p : ConnectPlan} (h : RouteFits p) (s : Strategies) (a : Arena) :
    (p.setupMetadata (τ := τ) s a).1 = .ok
      (p.setupRoute.map fun route => RouteMetadata.written route p.resolveMetadataType) := by
  unfold setupMetadata
  cases hr : p.setupRoute with
  | none => rfl
  | some route =>
      have henc := RouteMetadata.encode_of_not_tooLong (h route hr) (a.factory s.bufferFactory)
      unfold Arena.withFactory
      dsimp only
      rw [henc]
      rfl

theorem setupMetadata_of_tooLong {p : ConnectPlan} {route : String}
    (hr : p.setupRoute = some route)
    (h : RouteMetadata.TooLong route p.resolveMetadataType) (s : Strategies) (a : Arena) :
    (p.setupMetadata (τ := τ) s a).1
      = .error (.metadata (.tooLong .routeTag (Utf8.length route))) := by
  have henc := RouteMetadata.encode_of_tooLong h (a.factory s.bufferFactory)
  unfold setupMetadata Arena.withFactory
  rw [hr]
  dsimp only
  rw [henc]
  rfl

/-- Once the configurers have succeeded, the rest of the attempt decides. -/
theorem ends_connect_of_configured {p : ConnectPlan} {transport : ConnectionSetup → Except τ κ}
    {a : Arena} {s : Strategies} {c : Connector} (h : Configured p a s c) {calls : List Call}
    {outcome : Except (ConnectError τ) (Requester κ)}
    (hrest : ∀ a, ((Attempt.quiet (p.resolveDataType s, a)).andThen fun dataType a =>
      (Attempt.quiet (p.setupMetadata s a)).andThen fun metadata a =>
      let setup := c.finish dataType p.resolveMetadataType s.frameDecoding ⟨p.setupData, metadata⟩
      (openConnection transport setup a).andThen fun connection a =>
        .quiet (.ok ⟨connection, setup, s⟩, a)).Ends calls outcome) :
    (p.connect transport a).Ends (p.configurerCalls s ++ calls) outcome := by
  rw [configurerCalls, List.append_assoc]
  exact (resolveStrategies_of_assembled h.assembled).andThen_ok fun a =>
    (runConnectorConfigurers_of_passes h.passes 0 a).andThen_ok hrest

/-- Once everything is settled, the transport decides. -/
theorem ends_connect_of_settled {p : ConnectPlan} {a : Arena} {s : Strategies} {c : Connector}
    {m : MediaType} (hc : Configured p a s c) (hd : SettledDataType p s m) (hr : RouteFits p)
    (transport : ConnectionSetup → Except τ κ) :
    (p.connect transport a).Ends (p.configurerCalls s ++ [.transport (p.setup s c m)])
      (((transport (p.setup s c m)).mapError .transport).map fun k => ⟨k, p.setup s c m, s⟩) := by
  refine ends_connect_of_configured hc fun a => ?_
  rw [resolveDataType_of_settled hd]
  refine (Attempt.ends_quiet (.ok m, a)).andThen_ok fun a => ?_
  have hmeta := Attempt.ends_quiet (p.setupMetadata (τ := τ) s a)
  rw [setupMetadata_of_fits hr] at hmeta
  refine hmeta.andThen_ok fun a => ?_
  -- `connect` spells out what `setup` names
  show ((openConnection transport (p.setup s c m) a).andThen _).Ends _ _
  unfold openConnection Attempt.andThen
  cases transport (p.setup s c m) with
  | error e => exact ⟨rfl, rfl⟩
  | ok k => exact ⟨rfl, rfl⟩

/-- Every rule says what carrying the plan out does. -/
theorem ends_connect_of_course {p : ConnectPlan} {transport : ConnectionSetup → Except τ κ}
    {a : Arena} {calls : List Call} {outcome : Except (ConnectError τ) (Requester κ)}
    (h : Course p transport a calls outcome) : (p.connect transport a).Ends calls outcome := by
  cases h with
  | strategiesConfigurerFailed hf => exact (resolveStrategies_of_failsAt hf).andThen_error _
  | connectorConfigurerFailed hs hf =>
      refine (resolveStrategies_of_assembled hs).andThen_ok fun a => ?_
      have hrun := runConnectorConfigurers_of_failsAt (τ := τ) hf 0 a
      rw [Nat.zero_add] at hrun
      exact hrun.andThen_error _
  | @ambiguous s _ e hc hd hr =>
      -- nobody is called after the configurers
      rw [← List.append_nil (p.configurerCalls s)]
      refine ends_connect_of_configured hc fun a => ?_
      rw [resolveDataType_of_ambiguous hd hr]
      exact (Attempt.ends_quiet (.error (ConnectError.ambiguous e), a)).andThen_error _
  | @routeTooLong s _ m _ hc hd hr ht =>
      rw [← List.append_nil (p.configurerCalls s)]
      refine ends_connect_of_configured hc fun a => ?_
      rw [resolveDataType_of_settled hd]
      refine (Attempt.ends_quiet (.ok m, a)).andThen_ok fun a => ?_
      have hmeta := Attempt.ends_quiet (p.setupMetadata (τ := τ) s a)
      rw [setupMetadata_of_tooLong hr ht] at hmeta
      exact hmeta.andThen_error _
  | @transportFailed s c m _ hc hd hr ht =>
      have hopen := ends_connect_of_settled hc hd hr transport
      rw [ht] at hopen
      exact hopen
  | @connected s c m _ hc hd hr ht =>
      have hopen := ends_connect_of_settled hc hd hr transport
      rw [ht] at hopen
      exact hopen

/-! ## Nothing is left out -/

theorem assembled_or_failsAt (p : ConnectPlan) (a : Arena) :
    (∃ s, Assembled p a s)
      ∨ ∃ i e, FailsAt changeStrategies p.strategiesConfigurers (p.startBuilder a) i e := by
  by_cases hnil : p.strategiesConfigurers = []
  · exact Or.inl ⟨_, .asGiven hnil⟩
  · rcases passes_or_failsAt changeStrategies p.strategiesConfigurers (p.startBuilder a) with
      ⟨x, hx⟩ | hf
    · exact Or.inl ⟨_, .configured hnil hx⟩
    · exact Or.inr hf

theorem settled_or_ambiguous (p : ConnectPlan) (s : Strategies) :
    (∃ m, SettledDataType p s m)
      ∨ p.dataType = none ∧ ∃ e, DataFormat.resolve (s.decoders.map (·.value)) = .error e := by
  cases hd : p.dataType with
  | some m => exact Or.inl ⟨m, Or.inl hd⟩
  | none =>
      cases hr : DataFormat.resolve (s.decoders.map (·.value)) with
      | ok m => exact Or.inl ⟨m, Or.inr ⟨hd, hr⟩⟩
      | error e => exact Or.inr ⟨rfl, e, rfl⟩

theorem fits_or_tooLong (p : ConnectPlan) :
    RouteFits p ∨ ∃ route, p.setupRoute = some route
      ∧ RouteMetadata.TooLong route p.resolveMetadataType := by
  cases hr : p.setupRoute with
  | none => exact Or.inl fun route h => absurd (hr.symm.trans h) (by simp)
  | some route =>
      by_cases ht : RouteMetadata.TooLong route p.resolveMetadataType
      · exact Or.inr ⟨route, rfl, ht⟩
      · refine Or.inl fun route' h => ?_
        rw [← Option.some.inj (hr.symm.trans h)]
        exact ht

/-- Every attempt follows one of the rules. -/
theorem exists_course (p : ConnectPlan) (transport : ConnectionSetup → Except τ κ) (a : Arena) :
    ∃ calls outcome, Course p transport a calls outcome := by
  -- stage by stage: either it goes well, or there is a rule for its failure
  rcases assembled_or_failsAt p a with ⟨s, hs⟩ | ⟨i, e, hf⟩
  · rcases passes_or_failsAt (changeConnector s) p.connectorConfigurers .default with
      ⟨c, hc⟩ | ⟨i, e, hf⟩
    · have hconf : Configured p a s c := ⟨hs, hc⟩
      rcases settled_or_ambiguous p s with ⟨m, hm⟩ | ⟨hd, e, hr⟩
      · rcases fits_or_tooLong p with hfit | ⟨route, hr, ht⟩
        · cases ht : transport (p.setup s c m) with
          | error e => exact ⟨_, _, .transportFailed hconf hm hfit ht⟩
          | ok k => exact ⟨_, _, .connected hconf hm hfit ht⟩
        · exact ⟨_, _, .routeTooLong hconf hm hr ht⟩
      · exact ⟨_, _, .ambiguous hconf hd hr⟩
    · exact ⟨_, _, .connectorConfigurerFailed hs hf⟩
  · exact ⟨_, _, .strategiesConfigurerFailed hf⟩

/--
**An attempt follows its course.** Who is called and what comes of it are what the rules of
`Course` say, for every plan, whatever its configurers and the transport do.
-/
theorem connect_iff_course (p : ConnectPlan) (transport : ConnectionSetup → Except τ κ) (a : Arena)
    (calls : List Call) (outcome : Except (ConnectError τ) (Requester κ)) :
    Course p transport a calls outcome
      ↔ (p.connect transport a).calls = calls ∧ (p.connect transport a).outcome = outcome := by
  constructor
  · intro h
    have hends := ends_connect_of_course h
    exact ⟨hends.calls, hends.outcome⟩
  · rintro ⟨rfl, rfl⟩
    -- some course is followed, and what is followed is what happens
    obtain ⟨calls, outcome, h⟩ := exists_course p transport a
    have hends := ends_connect_of_course h
    rw [hends.calls, hends.outcome]
    exact h

end ConnectPlan

end SocketStrategies
