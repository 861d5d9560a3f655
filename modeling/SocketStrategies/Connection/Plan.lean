import SocketStrategies.Connection.Requester

/-!
# Connecting

A plan says how to connect. Its configurers are only kept until the plan is carried out, stage by
stage:

1. the strategies are put together, the strategies configurers changing a builder one
   after the other;
2. the connector configurers change the settings, each shown the final strategies;
3. the data format is settled, and the setup route is written as metadata;
4. the transport opens the connection.

A stage that fails ends the attempt, and no later stage runs. An attempt records who was called,
so that what ran can be told from its result.
-/

namespace SocketStrategies

/-- Who may fail while configurers run. -/
inductive ConfigurerStage where
  | strategies
  | connector
  deriving DecidableEq, Repr

def ConfigurerStage.name : ConfigurerStage → String
  | .strategies => "strategies"
  | .connector => "connector"

/-- Why a configurer failed. -/
abbrev ConfigurerFailure := Failure StrategiesError

/-- Why there is no connection. -/
inductive ConnectError (τ : Type) where
  | ambiguous (cause : DataFormat.Ambiguous)
  /-- A configurer failed; they are counted from zero. -/
  | configurer (stage : ConfigurerStage) (index : Nat) (cause : ConfigurerFailure)
  /-- The setup route cannot be written. -/
  | metadata (cause : MetadataError)
  | transport (cause : τ)
  deriving DecidableEq

def ConnectError.message {τ : Type} : ConnectError τ → String
  | .ambiguous cause => cause.message
  | .configurer stage index _ => stage.name ++ " configurer #" ++ toString index ++ " failed"
  | .metadata _ => "metadata error"
  | .transport _ => "transport connect error"

/-! ## Attempts -/

/-- Someone who was called during an attempt, and with what. -/
inductive Call where
  | strategiesConfigurer (index : Nat)
  /-- A connector configurer, which sees the final strategies. -/
  | connectorConfigurer (index : Nat) (strategies : Strategies)
  | transport (setup : ConnectionSetup)
  deriving DecidableEq

/-- What happened during some stages of an attempt, and what came of it. -/
structure Attempt (ε α : Type) where
  /-- Who was called, first to last. -/
  calls : List Call
  arena : Arena
  outcome : Except ε α

namespace Attempt

variable {ε α β : Type}

/-- A stage that calls no one. -/
def quiet (result : Except ε α × Arena) : Attempt ε α := ⟨[], result.2, result.1⟩

/-- Goes on with the next stage, unless there was a failure. -/
def andThen (x : Attempt ε α) (next : α → Arena → Attempt ε β) : Attempt ε β :=
  match x.outcome with
  | .error e => ⟨x.calls, x.arena, .error e⟩
  | .ok v =>
      let y := next v x.arena
      { y with calls := x.calls ++ y.calls }

/-- Records a call that came before. -/
def after (call : Call) (x : Attempt ε α) : Attempt ε α := { x with calls := call :: x.calls }

end Attempt

/-! ## Plans -/

/-- Changes a builder of strategies, or fails. -/
abbrev StrategiesConfigurer :=
  Strategies.Builder → Arena → Except ConfigurerFailure Strategies.Builder × Arena

/-- Changes the settings in view of the final strategies, or fails. -/
abbrev ConnectorConfigurer := Connector → Strategies → Except ConfigurerFailure Connector

structure ConnectPlan where
  dataType : Option MediaType
  metadataType : Option MediaType
  setupRoute : Option String
  setupData : Option Bytes
  strategies : Option Strategies
  strategiesConfigurers : List StrategiesConfigurer
  connectorConfigurers : List ConnectorConfigurer

namespace ConnectPlan

variable {κ τ : Type}

def empty : ConnectPlan := ⟨none, none, none, none, none, [], []⟩

def configureStrategies (p : ConnectPlan) (f : StrategiesConfigurer) : ConnectPlan :=
  { p with strategiesConfigurers := p.strategiesConfigurers ++ [f] }

def configureConnector (p : ConnectPlan) (f : ConnectorConfigurer) : ConnectPlan :=
  { p with connectorConfigurers := p.connectorConfigurers ++ [f] }

/-- The format of metadata unless another is chosen. -/
def defaultMetadataType : MediaType := .compositeMetadata

/-- Runs strategies configurers, counted from `index` on. -/
def runStrategiesConfigurers (index : Nat) (b : Strategies.Builder) (a : Arena) :
    List StrategiesConfigurer → Attempt (ConnectError τ) Strategies.Builder
  | [] => .quiet (.ok b, a)
  | f :: rest =>
      match f b a with
      | (.error e, a) =>
          ⟨[.strategiesConfigurer index], a, .error (.configurer .strategies index e)⟩
      | (.ok b, a) =>
          (runStrategiesConfigurers (index + 1) b a rest).after (.strategiesConfigurer index)

/-- Runs connector configurers, counted from `index` on. -/
def runConnectorConfigurers (index : Nat) (c : Connector) (s : Strategies) (a : Arena) :
    List ConnectorConfigurer → Attempt (ConnectError τ) Connector
  | [] => .quiet (.ok c, a)
  | f :: rest =>
      match f c s with
      | .error e => ⟨[.connectorConfigurer index s], a, .error (.configurer .connector index e)⟩
      | .ok c =>
          (runConnectorConfigurers (index + 1) c s a rest).after (.connectorConfigurer index s)

/-- The strategies that are used as they are where no configurer changes them. -/
def givenStrategies (p : ConnectPlan) (a : Arena) : Strategies × Arena :=
  match p.strategies with
  | some s => (s, a)
  | none => Strategies.default a

/-- The builder that strategies configurers start from. -/
def startBuilder (p : ConnectPlan) (a : Arena) : Strategies.Builder × Arena :=
  match p.strategies with
  | some s => (s.mutate, a)
  | none => Strategies.Builder.new a

def resolveStrategies (p : ConnectPlan) (a : Arena) : Attempt (ConnectError τ) Strategies :=
  match p.strategiesConfigurers with
  | [] =>
      let (s, a) := p.givenStrategies a
      .quiet (.ok s, a)
  | fs =>
      let (b, a) := p.startBuilder a
      (runStrategiesConfigurers 0 b a fs).andThen fun b a =>
        let (s, a) := b.build a
        .quiet (.ok s, a)

def resolveDataType (p : ConnectPlan) (s : Strategies) : Except (ConnectError τ) MediaType :=
  match p.dataType with
  | some m => .ok m
  | none => s.dataFormat.mapError .ambiguous

def resolveMetadataType (p : ConnectPlan) : MediaType := p.metadataType.getD defaultMetadataType

/-- Writes the setup route, if there is one. -/
def setupMetadata (p : ConnectPlan) (s : Strategies) (a : Arena) :
    Except (ConnectError τ) (Option Bytes) × Arena :=
  match p.setupRoute with
  | none => (.ok none, a)
  | some route =>
      let (result, a) :=
        a.withFactory s.bufferFactory (RouteMetadata.encode route p.resolveMetadataType)
      ((result.map some).mapError .metadata, a)

/-- Asks the transport for a connection. -/
def openConnection (transport : ConnectionSetup → Except τ κ) (setup : ConnectionSetup)
    (a : Arena) :
    Attempt (ConnectError τ) κ := ⟨[.transport setup], a, (transport setup).mapError .transport⟩

def connect (p : ConnectPlan) (transport : ConnectionSetup → Except τ κ) (a : Arena) :
    Attempt (ConnectError τ) (Requester κ) :=
  (p.resolveStrategies a).andThen fun strategies a =>
  (runConnectorConfigurers 0 .default strategies a p.connectorConfigurers).andThen
    fun connector a =>
  -- nobody is called while formats are settled
  (Attempt.quiet (p.resolveDataType strategies, a)).andThen fun dataType a =>
  (Attempt.quiet (p.setupMetadata strategies a)).andThen fun metadata a =>
  let setup := connector.finish dataType p.resolveMetadataType strategies.frameDecoding
    ⟨p.setupData, metadata⟩
  (openConnection transport setup a).andThen fun connection a =>
    .quiet (.ok ⟨connection, setup, strategies⟩, a)

def inspect (p : ConnectPlan) (a : Arena) : String :=
  Inspect.record "RequesterBuilder"
    [("data_mime_type", Inspect.optional (p.dataType.map MediaType.inspect)),
      ("metadata_mime_type", Inspect.optional (p.metadataType.map MediaType.inspect)),
      ("setup_route", Inspect.optional (p.setupRoute.map Inspect.text)),
      ("strategies", Inspect.optional (p.strategies.map (·.inspect a))),
      ("strategies_configurers", toString p.strategiesConfigurers.length),
      ("connector_configurers", toString p.connectorConfigurers.length)]

end ConnectPlan

end SocketStrategies
