import SocketStrategies.Proofs.Connection.DataTrip
import SocketStrategies.Proofs.Connection.RouteTrip
import SocketStrategies.Proofs.Encoding

/-!
# Configurers that change nothing

A plan without strategies configurers uses its strategies as they are. As soon as there is one, a
builder starts from them, and a builder takes over neither the route matcher nor the metadata
extractor. So a configurer that hands its builder back untouched makes a difference, and this file
says that it makes no other.

The two attempts are followed rule by rule of `Course`. What an attempt does hangs on the
strategies through the decoders, the kind of the buffer factory and what connector configurers
make of them, and all of these are taken over. `ResetFrom` says of the strategies what is taken
over, `Alike` says of two requesters that nobody who uses them to write and to read data, or to
write routes, can tell them apart.
-/

namespace SocketStrategies

/-! ## Idle configurers -/

/-- The configurer that hands its builder back as it is. -/
def idleConfigurer : StrategiesConfigurer := fun b a => (.ok b, a)

/-- A connector configurer that does not look at the route matcher and the metadata extractor. -/
def BlindToReset (f : ConnectorConfigurer) : Prop :=
  ∀ c (s : Strategies) matcher extractor,
    f c { s with routeMatcher := matcher, metadataExtractor := extractor } = f c s

/-- Whether strategies are the given ones but for a standard matcher and a standard
extractor of their own. -/
def Strategies.ResetFrom (s' s : Strategies) : Prop :=
  ∃ i j, s' = { s with routeMatcher := ⟨i, .dot⟩, metadataExtractor := ⟨j, .standard⟩ }

namespace ConnectPlan

variable {κ τ : Type}

/-- The plan with so many idle strategies configurers added. -/
def addIdle (p : ConnectPlan) : Nat → ConnectPlan
  | 0 => p
  | n + 1 => (p.addIdle n).configureStrategies idleConfigurer

theorem addIdle_eq (p : ConnectPlan) (n : Nat) :
    p.addIdle n
      = { p with strategiesConfigurers := p.strategiesConfigurers
        ++ List.replicate n idleConfigurer } := by
  induction n with
  | zero => rw [List.replicate_zero, List.append_nil]; rfl
  | succ n ih =>
      rw [addIdle, ih, configureStrategies, List.replicate_succ', List.append_assoc]

theorem passes_idle (n : Nat) (x : Strategies.Builder × Arena) :
    Passes changeStrategies (List.replicate n idleConfigurer) x x := by
  induction n with
  | zero => exact .nil
  | succ n ih => exact .cons rfl ih

/-! ## The strategies -/

/-- What is built from a builder that was not touched. -/
theorem resetFrom_givenStrategies (p : ConnectPlan) (a : Arena) :
    ((p.startBuilder a).1.build (p.startBuilder a).2).1.ResetFrom (p.givenStrategies a).1 := by
  unfold startBuilder givenStrategies
  cases p.strategies with
  | none =>
      -- new strategies are built from the same new builder
      exact ⟨_, _, rfl⟩
  | some s => exact ⟨_, _, rfl⟩

variable {p : ConnectPlan} {a : Arena} {s : Strategies} {n : Nat}

theorem assembled_addIdle (hp : p.strategiesConfigurers = []) (hn : 1 ≤ n) (h : Assembled p a s) :
    ∃ s', Assembled (p.addIdle n) a s' ∧ s'.ResetFrom s := by
  cases h with
  | asGiven _ =>
      refine ⟨_, .configured ?_ ?_, resetFrom_givenStrategies p a⟩
      · rw [addIdle_eq, hp]
        cases n with
        | zero => exact absurd hn (Nat.not_succ_le_zero 0)
        | succ n => exact List.cons_ne_nil _ _
      · rw [addIdle_eq, hp]
        exact passes_idle n _
  | configured hne _ => exact absurd hp hne

end ConnectPlan

/-! ## Requesters that answer alike -/

namespace Requester

variable {κ : Type}

/-- What is written of data does not hang on what waits in the pools. -/
theorem encodeData_arena (r : Requester κ) (p : Payload) (a a' : Arena) :
    (r.encodeData p a).1 = (r.encodeData p a').1 := by
  cases hfind : findEncoder? (r.strategies.encoders.map (·.value)) p.type (some r.dataType) with
  | none => rw [encodeData_of_not_found hfind, encodeData_of_not_found hfind]
  | some e =>
      rw [encodeData_of_find hfind, encodeData_of_find hfind,
        Factory.encoder_encode_eq e p _ (a.factory _),
        Factory.encoder_encode_eq e p _ (a'.factory _)]

theorem routeMetadata_arena (r : Requester κ) (route : String) (a a' : Arena) :
    (r.routeMetadata route a).1 = (r.routeMetadata route a').1 := by
  by_cases h : RouteMetadata.TooLong route r.metadataType
  · rw [routeMetadata_of_tooLong h, routeMetadata_of_tooLong h]
  · rw [routeMetadata_of_not_tooLong h, routeMetadata_of_not_tooLong h]

/-- Whether a requester is like another but for the route matcher and the metadata extractor,
which are the standard ones. The setup is the same, and in it the data format, the metadata format
and the frame decoding. -/
structure Alike (r' r : Requester κ) : Prop where
  connection : r'.connection = r.connection
  setup : r'.setup = r.setup
  strategies : r'.strategies.ResetFrom r.strategies
  encodeData : ∀ p a' a, (r'.encodeData p a').1 = (r.encodeData p a).1
  decodeData : ∀ t b, r'.decodeData t b = r.decodeData t b
  routeMetadata : ∀ route a' a, (r'.routeMetadata route a').1 = (r.routeMetadata route a).1

theorem alike_of_resetFrom (k : κ) (setup : ConnectionSetup) {s s' : Strategies}
    (h : s'.ResetFrom s) :
    Alike ⟨k, setup, s'⟩ ⟨k, setup, s⟩ := by
  have hreset := h
  obtain ⟨i, j, rfl⟩ := h
  exact {
    connection := rfl
    setup := rfl
    strategies := hreset
    encodeData := fun p a' a => encodeData_arena ⟨k, setup, s⟩ p a' a
    decodeData := fun t b => rfl
    routeMetadata := fun route a' a => routeMetadata_arena ⟨k, setup, s⟩ route a' a }

end Requester

namespace ConnectPlan

variable {κ τ : Type}

/-- Whether an attempt ended like another: with the same error, or with a requester that is
alike. -/
inductive EndsAlike :
    Except (ConnectError τ) (Requester κ) → Except (ConnectError τ) (Requester κ) → Prop where
  | failed (e : ConnectError τ) : EndsAlike (.error e) (.error e)
  | connected {r' r : Requester κ} : r'.Alike r → EndsAlike (.ok r') (.ok r)

/-! ## The two attempts -/

section Blind

variable {fs : List ConnectorConfigurer} {s s' : Strategies}

/-- Blind configurers do the same where only matcher and extractor differ. -/
theorem changeConnector_eq (hs : s'.ResetFrom s) {f : ConnectorConfigurer} (hf : BlindToReset f) :
    changeConnector s' f = changeConnector s f := by
  obtain ⟨i, j, rfl⟩ := hs
  funext c
  exact hf c s _ _

theorem passes_of_resetFrom (hs : s'.ResetFrom s) (hblind : ∀ f ∈ fs, BlindToReset f)
    {c c' : Connector}
    (h : Passes (changeConnector s) fs c c') : Passes (changeConnector s') fs c c' := by
  induction h with
  | nil => exact .nil
  | cons hf _ ih =>
      obtain ⟨hblindf, hblind⟩ := List.forall_mem_cons.mp hblind
      rw [← changeConnector_eq hs hblindf] at hf
      exact .cons hf (ih hblind)

theorem failsAt_of_resetFrom (hs : s'.ResetFrom s) (hblind : ∀ f ∈ fs, BlindToReset f)
    {c : Connector} {i : Nat} {e : ConfigurerFailure} (h : FailsAt (changeConnector s) fs c i e) :
    FailsAt (changeConnector s') fs c i e := by
  induction h with
  | here hf =>
      rw [← changeConnector_eq hs (List.forall_mem_cons.mp hblind).1] at hf
      exact .here hf
  | there hf _ ih =>
      obtain ⟨hblindf, hblind⟩ := List.forall_mem_cons.mp hblind
      rw [← changeConnector_eq hs hblindf] at hf
      exact .there hf (ih hblind)

end Blind

/-- The setup hangs on the strategies only through the kind of their factory. -/
theorem setup_of_resetFrom (p : ConnectPlan) {s s' : Strategies} (hs : s'.ResetFrom s)
    (c : Connector) (m : MediaType) : p.setup s' c m = p.setup s c m := by
  obtain ⟨i, j, rfl⟩ := hs
  rfl

variable {p : ConnectPlan} {transport : ConnectionSetup → Except τ κ} {a : Arena} {n : Nat}

theorem configured_addIdle (hp : p.strategiesConfigurers = [])
    (hblind : ∀ f ∈ p.connectorConfigurers, BlindToReset f) (hn : 1 ≤ n) {s : Strategies}
    {c : Connector}
    (h : Configured p a s c) : ∃ s', Configured (p.addIdle n) a s' c ∧ s'.ResetFrom s := by
  obtain ⟨s', hassembled, hs⟩ := assembled_addIdle hp hn h.assembled
  refine ⟨s', ⟨hassembled, ?_⟩, hs⟩
  rw [addIdle_eq]
  exact passes_of_resetFrom hs hblind h.passes

/-- Whatever rule an attempt follows, the attempt with idle configurers follows it too. -/
theorem course_addIdle (hp : p.strategiesConfigurers = [])
    (hblind : ∀ f ∈ p.connectorConfigurers, BlindToReset f) (hn : 1 ≤ n) {calls : List Call}
    {outcome : Except (ConnectError τ) (Requester κ)} (h : Course p transport a calls outcome) :
    ∃ calls' outcome', Course (p.addIdle n) transport a calls' outcome'
      ∧ calls'.filterMap Call.setup? = calls.filterMap Call.setup?
      ∧ EndsAlike outcome' outcome := by
  have hsettled : ∀ {s s' : Strategies} {m : MediaType}, s'.ResetFrom s → SettledDataType p s m →
      SettledDataType (p.addIdle n) s' m := by
    rintro s _ m ⟨i, j, rfl⟩ hm
    rw [addIdle_eq]
    exact hm
  have hsetup : ∀ {s s' : Strategies}, s'.ResetFrom s → ∀ c m,
      (p.addIdle n).setup s' c m = p.setup s c m := by
    intro s s' hs c m
    rw [addIdle_eq, ← setup_of_resetFrom p hs]
    rfl
  have hfits : RouteFits p → RouteFits (p.addIdle n) := by
    rw [addIdle_eq]
    exact id
  have hconfigured := fun {s c} => configured_addIdle (s := s) (c := c) (a := a) hp hblind hn
  cases h with
  | strategiesConfigurerFailed hf =>
      rw [hp] at hf
      cases hf
  | connectorConfigurerFailed hassembled hf =>
      obtain ⟨s', hassembled', hs⟩ := assembled_addIdle hp hn hassembled
      have hf' := failsAt_of_resetFrom hs hblind hf
      refine ⟨_, _, .connectorConfigurerFailed hassembled' (by rw [addIdle_eq]; exact hf'), ?_,
        .failed _⟩
      rw [setup?_calls, setup?_calls]
  | ambiguous hc hd hr =>
      obtain ⟨s', hc', hs⟩ := hconfigured hc
      refine ⟨_, _, .ambiguous hc' (by rw [addIdle_eq]; exact hd) ?_, ?_, .failed _⟩
      · obtain ⟨i, j, rfl⟩ := hs
        exact hr
      · rw [setup?_configurerCalls, setup?_configurerCalls]
  | routeTooLong hc hd hr ht =>
      obtain ⟨s', hc', hs⟩ := hconfigured hc
      refine ⟨_, _, .routeTooLong hc' (hsettled hs hd) (by rw [addIdle_eq]; exact hr)
        (by rw [addIdle_eq]; exact ht), ?_, .failed _⟩
      rw [setup?_configurerCalls, setup?_configurerCalls]
  | @transportFailed s c m e hc hd hr ht =>
      obtain ⟨s', hc', hs⟩ := hconfigured hc
      have ht' : transport ((p.addIdle n).setup s' c m) = .error e := by rw [hsetup hs]; exact ht
      refine ⟨_, _, .transportFailed hc' (hsettled hs hd) (hfits hr) ht', ?_, .failed _⟩
      rw [List.filterMap_append, List.filterMap_append, setup?_configurerCalls,
        setup?_configurerCalls, hsetup hs]
  | @connected s c m k hc hd hr ht =>
      obtain ⟨s', hc', hs⟩ := hconfigured hc
      have ht' : transport ((p.addIdle n).setup s' c m) = .ok k := by rw [hsetup hs]; exact ht
      refine ⟨_, _, .connected hc' (hsettled hs hd) (hfits hr) ht', ?_, .connected ?_⟩
      · rw [List.filterMap_append, List.filterMap_append, setup?_configurerCalls,
          setup?_configurerCalls, hsetup hs]
      · rw [hsetup hs]
        exact Requester.alike_of_resetFrom k _ hs

/--
**Idle configurers reset two capabilities and change nothing else.** A plan without strategies
configurers, whose connector configurers do not look at the route matcher and the metadata
extractor, is carried out once as it is and once with idle strategies configurers added. Whatever
else the plan holds, and whatever the transport does:

* the transport is handed the same setups;
* either both attempts fail with the same error, or both connect;
* the requesters have the same connection and the same setup, write the same data and the same
  routes and read the same data, and their strategies have the same encoders, decoders, buffer
  factory and adapter registry;
* the strategies of the second have the route matcher for `.` and the extractor for plain text.
-/
theorem connect_addIdle (p : ConnectPlan) (hp : p.strategiesConfigurers = [])
    (hblind : ∀ f ∈ p.connectorConfigurers, BlindToReset f) {n : Nat} (hn : 1 ≤ n)
    (transport : ConnectionSetup → Except τ κ) (a : Arena) :
    ((p.addIdle n).connect transport a).calls.filterMap Call.setup?
        = (p.connect transport a).calls.filterMap Call.setup?
      ∧ EndsAlike ((p.addIdle n).connect transport a).outcome (p.connect transport a).outcome := by
  obtain ⟨calls, outcome, hcourse⟩ := exists_course p transport a
  obtain ⟨calls', outcome', hcourse', hsetups, halike⟩ := course_addIdle hp hblind hn hcourse
  have hends := ends_connect_of_course hcourse
  have hends' := ends_connect_of_course hcourse'
  rw [hends.calls, hends.outcome, hends'.calls, hends'.outcome]
  exact ⟨hsetups, halike⟩

/-! ### Strategies with a matcher and an extractor of their own -/

/-- Strategies without a pool, for routes with slashes, that extract nothing. -/
def slashStrategies : Strategies :=
  { (Strategies.default .initial).1 with
    routeMatcher := ⟨20, .slash⟩, metadataExtractor := ⟨21, .empty⟩, bufferFactory := ⟨22, .heap⟩ }

/-- A plan with these strategies, whose connector configurer looks at the decoders. -/
def slashPlan : ConnectPlan :=
  { ConnectPlan.empty with
    dataType := some .json, setupRoute := some "a", strategies := some slashStrategies
    connectorConfigurers := [fun c s => .ok (c.limitInbound s.decoders.length)] }

/-- The requester that comes of the plan as it is. -/
def slashRequester : Requester Unit :=
  ⟨(), slashPlan.setup slashStrategies (Connector.default.limitInbound 4) .json, slashStrategies⟩

theorem connect_slashPlan :
    (slashPlan.connect (τ := Empty) (fun _ => .ok ()) .initial).outcome = .ok slashRequester := by
  have hfits : RouteFits slashPlan := by
    intro route hroute hlong
    rw [← Option.some.inj hroute] at hlong
    exact absurd hlong.1 (by decide)
  have hcourse : Course (τ := Empty) slashPlan (fun _ => .ok ()) .initial _ (.ok slashRequester) :=
    .connected ⟨.asGiven rfl, .cons rfl .nil⟩ (Or.inl rfl) hfits rfl
  exact (ends_connect_of_course hcourse).outcome

/-- With two idle configurers the setup is the same, and routes are matched with dots. -/
theorem connect_slashPlan_addIdle :
    ∃ r, ((slashPlan.addIdle 2).connect (τ := Empty) (fun _ => .ok ()) .initial).outcome = .ok r
      ∧ r.setup = slashRequester.setup ∧ r.strategies.bufferFactory = ⟨22, .heap⟩
      ∧ slashRequester.strategies.routeMatcher.value = .slash
      ∧ r.strategies.routeMatcher.value = .dot := by
  have hblind : ∀ f ∈ slashPlan.connectorConfigurers, BlindToReset f := by
    intro f hf c s matcher extractor
    rw [List.mem_singleton.mp hf]
  obtain ⟨-, halike⟩ := connect_addIdle (τ := Empty) (n := 2) slashPlan rfl hblind (by decide)
    (fun _ => .ok ()) .initial
  rw [connect_slashPlan] at halike
  generalize ((slashPlan.addIdle 2).connect (τ := Empty) (fun _ => .ok ()) .initial).outcome
    = outcome at halike ⊢
  cases halike with
  | @connected r _ h =>
      obtain ⟨i, j, hs⟩ := h.strategies
      refine ⟨r, rfl, h.setup, ?_, rfl, ?_⟩
      · rw [hs]
        rfl
      · rw [hs]

end ConnectPlan

end SocketStrategies
