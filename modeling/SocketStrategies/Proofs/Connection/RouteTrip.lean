import SocketStrategies.Proofs.Connection.Plan
import SocketStrategies.Proofs.Metadata.Extraction

/-!
# A route survives the trip through metadata

A route is written in one of three formats, and extracted by whichever of them the metadata has.
Both sides look at the format only up to case and parameters, and both look for composite metadata
first, so they take the same branch. In the two formats with tags the route comes back whatever
the rules of the extractor are, since routing metadata is never shown to a rule. As plain text it
comes back by the one rule of the standard extractor.

The two halves meet at `RouteMetadata.written`: the bytes that a route is written as, if it is not
too long for the format. Connecting writes the setup route by the same function in the same
format, so the transport gets the bytes that the requester would write.
-/

namespace SocketStrategies

namespace MetadataExtractor

/-- A route and nothing else. -/
def onlyRoute (route : String) : MetadataValues := Dict.empty.insert routeKey (.text route)

variable {m : MediaType} {route : String}

/-! ## Extracting what was written -/

theorem tagsOf_tag (h : Utf8.length route ≤ 255) :
    Routing.TagsOf (RouteMetadata.tag route) [route] := by
  have hlen : Utf8.length route = (UInt8.ofNat (Utf8.length route)).toNat := by
    rw [UInt8.toNat_ofNat']
    omega
  have htags := ItemsOf.cons (Routing.TagOf.mk hlen) ItemsOf.nil
  rw [List.append_nil] at htags
  exact htags

/-- No rule has a say in what a tag is extracted as. -/
theorem extractEntry_tag (hm : m.sameFormat .routing = true) (h : Utf8.length route ≤ 255)
    (x : MetadataExtractor) :
    x.extractEntry (RouteMetadata.tag route) m .empty = .ok (onlyRoute route) :=
  extractEntry_of_writes (Writes.route hm (tagsOf_tag h)) .empty

/-- The entry around a tag comes back as routing metadata, since that has a number. -/
theorem decode_frame_tag (h : Utf8.length route ≤ 255) :
    ∃ m : MediaType, m.sameFormat .routing = true
      ∧ Composite.decode (Composite.frame ⟨.routing, RouteMetadata.tag route⟩)
        = .ok [⟨m, RouteMetadata.tag route⟩] := by
  obtain ⟨m, hread, hm⟩ :=
    Composite.reread_equivalent_iff.mpr (absurd RouteMetadata.wellKnown_routing)
  have hback : List.Forall₂ Composite.Entry.RereadAs [⟨.routing, RouteMetadata.tag route⟩]
      [⟨m, RouteMetadata.tag route⟩] := List.Forall₂.cons ⟨hread, rfl⟩ List.Forall₂.nil
  have hdec := Composite.decode_frames_of_rereadAs
    (List.forall_mem_singleton.mpr (RouteMetadata.writable_tag h)) hback
  rw [List.flatMap_singleton] at hdec
  exact ⟨m, (MediaType.equivalent_iff.mp hm).1, hdec⟩

theorem extract_written_of_tagged (hm : RouteMetadata.Tagged m) (h : Utf8.length route ≤ 255)
    (x : MetadataExtractor) :
    x.extract (RouteMetadata.written route m) m = .ok (onlyRoute route) := by
  unfold RouteMetadata.written
  by_cases hc : m.sameFormat .compositeMetadata = true
  · obtain ⟨m', hm', hdec⟩ := decode_frame_tag h
    rw [if_pos hc, extract_of_composite hc, hdec, Except.bind, List.foldlM_cons, extractNext,
      extractEntry_tag hm' h]
    rfl
  · have hr := hm.resolve_left hc
    rw [if_neg hc, if_pos hr, extract_of_not_composite (Bool.eq_false_iff.mpr hc)]
    exact extractEntry_tag hr h x

/-- Plain text is neither of the formats with tags. -/
theorem not_tagged_of_textPlain (hm : m.sameFormat .textPlain = true) :
    ¬ RouteMetadata.Tagged m := by
  have hc : m.sameFormat .compositeMetadata = false := by
    rw [MediaType.sameFormat_congr hm]
    exact MediaType.sameFormat_of_folded MediaType.folded_textPlain
      MediaType.folded_compositeMetadata
  have hr : m.sameFormat .routing = false := by
    rw [MediaType.sameFormat_congr hm]
    exact MediaType.sameFormat_of_folded MediaType.folded_textPlain MediaType.folded_routing
  rintro (h | h)
  · rw [hc] at h
    exact Bool.false_ne_true h
  · rw [hr] at h
    exact Bool.false_ne_true h

theorem extract_written_of_textPlain (hm : m.sameFormat .textPlain = true) (route : String) :
    standard.extract (RouteMetadata.written route m) m = .ok (onlyRoute route) := by
  obtain ⟨hc, hr⟩ := not_or.mp (not_tagged_of_textPlain hm)
  have hrules : List.Forall₂ (RuleWrites (Utf8.encode route)) (standard.asked m)
      [(routeKey, .text route)] := by
    rw [asked_standard hm]
    exact List.Forall₂.cons ⟨rfl, TakenAs.text⟩ List.Forall₂.nil
  unfold RouteMetadata.written
  rw [if_neg hc, if_neg hr, extract_of_not_composite (Bool.eq_false_iff.mpr hc)]
  exact extractEntry_of_writes (Writes.rules (Bool.eq_false_iff.mpr hr) hrules) .empty

end MetadataExtractor

/-- The extractor of strategies for which none was chosen. -/
theorem Strategies.Builder.metadataExtractor_build {b : Builder} (h : b.metadataExtractor = none)
    (a : Arena) : (b.build a).1.metadataExtractor.value = .standard := by
  unfold build orNew
  rw [h]
  rfl

/-! ## What a requester writes -/

namespace Requester

variable {κ : Type}

theorem routeMetadata_of_not_tooLong {r : Requester κ} {route : String}
    (h : ¬ RouteMetadata.TooLong route r.metadataType) (a : Arena) :
    (r.routeMetadata route a).1 = .ok (RouteMetadata.written route r.metadataType) := by
  have henc := RouteMetadata.encode_of_not_tooLong h (a.factory r.strategies.bufferFactory)
  unfold routeMetadata Arena.withFactory
  dsimp only
  rw [henc]
  rfl

theorem routeMetadata_of_tooLong {r : Requester κ} {route : String}
    (h : RouteMetadata.TooLong route r.metadataType) (a : Arena) :
    (r.routeMetadata route a).1
      = .error (.metadata (.tooLong .routeTag (Utf8.length route))) := by
  have henc := RouteMetadata.encode_of_tooLong h (a.factory r.strategies.bufferFactory)
  unfold routeMetadata Arena.withFactory
  dsimp only
  rw [henc]
  rfl

theorem routeMetadata_eq_ok_iff {r : Requester κ} (h : RouteMetadata.Tagged r.metadataType)
    (route : String) (a : Arena) :
    (∃ b, (r.routeMetadata route a).1 = .ok b) ↔ Utf8.length route ≤ 255 := by
  constructor
  · rintro ⟨b, hb⟩
    by_contra hlen
    rw [routeMetadata_of_tooLong ⟨Nat.lt_of_not_le hlen, h⟩] at hb
    cases hb
  · intro hlen
    exact ⟨_, routeMetadata_of_not_tooLong (fun hlong => Nat.not_lt.mpr hlen hlong.1) a⟩

theorem routeMetadata_eq_error_iff {r : Requester κ} (h : RouteMetadata.Tagged r.metadataType)
    (route : String) (a : Arena) (err : RequesterError) :
    (r.routeMetadata route a).1 = .error err
      ↔ 255 < Utf8.length route ∧ err = .metadata (.tooLong .routeTag (Utf8.length route)) := by
  rcases Nat.lt_or_ge 255 (Utf8.length route) with hlen | hlen
  · rw [routeMetadata_of_tooLong ⟨hlen, h⟩]
    exact ⟨fun herr => ⟨hlen, (Except.error.inj herr).symm⟩, fun herr => congrArg _ herr.2.symm⟩
  · obtain ⟨b, hb⟩ := (routeMetadata_eq_ok_iff h route a).mpr hlen
    rw [hb]
    constructor
    · intro herr
      cases herr
    · intro herr
      exact absurd herr.1 (Nat.not_lt.mpr hlen)

/-! ## What a requester extracts -/

theorem extractMetadata_of_tagged {r : Requester κ} (h : RouteMetadata.Tagged r.metadataType)
    {route : String} {a : Arena} {b : Bytes} (hb : (r.routeMetadata route a).1 = .ok b) :
    r.extractMetadata b = .ok (MetadataExtractor.onlyRoute route) := by
  have hlen := (routeMetadata_eq_ok_iff h route a).mp ⟨b, hb⟩
  rw [routeMetadata_of_not_tooLong fun hlong => Nat.not_lt.mpr hlen hlong.1] at hb
  rw [← Except.ok.inj hb, extractMetadata, MetadataExtractor.extract_written_of_tagged h hlen]
  rfl

theorem extractMetadata_of_textPlain {r : Requester κ}
    (h : r.metadataType.sameFormat .textPlain = true)
    (hx : r.strategies.metadataExtractor.value = .standard) (route : String) :
    r.extractMetadata (RouteMetadata.written route r.metadataType)
      = .ok (MetadataExtractor.onlyRoute route) := by
  rw [extractMetadata, hx, MetadataExtractor.extract_written_of_textPlain h]
  rfl

end Requester

/-! ## What the transport gets -/

/-- The setup that a call hands over, if it is a call of the transport. -/
def Call.setup? : Call → Option ConnectionSetup
  | .transport setup => some setup
  | .strategiesConfigurer _ => none
  | .connectorConfigurer _ _ => none

namespace ConnectPlan

/-- No configurer is handed a setup, however many are called. -/
theorem setup?_calls (s : Strategies) (m n : Nat) :
    (strategiesCalls 0 m ++ connectorCalls s 0 n).filterMap Call.setup? = [] := by
  rw [List.filterMap_eq_nil_iff]
  intro call hcall
  rcases List.mem_append.mp hcall with h | h
  · obtain ⟨i, -, rfl⟩ := List.mem_map.mp h
    rfl
  · obtain ⟨i, -, rfl⟩ := List.mem_map.mp h
    rfl

theorem setup?_configurerCalls (p : ConnectPlan) (s : Strategies) :
    (p.configurerCalls s).filterMap Call.setup? = [] := setup?_calls s _ _

variable {κ τ : Type}

/-- Whoever is connected has got past the route, and the transport was called once. -/
theorem setup_of_connected {p : ConnectPlan} {transport : ConnectionSetup → Except τ κ} {a : Arena}
    {r : Requester κ} (h : (p.connect transport a).outcome = .ok r) :
    (p.connect transport a).calls.filterMap Call.setup? = [r.setup] ∧ RouteFits p
      ∧ r.metadataType = p.resolveMetadataType
      ∧ r.setup.payload.metadata
        = p.setupRoute.map fun route => RouteMetadata.written route r.metadataType := by
  obtain ⟨calls, outcome, hcourse⟩ := exists_course p transport a
  have hends := ends_connect_of_course hcourse
  obtain rfl : outcome = .ok r := hends.outcome.symm.trans h
  rw [hends.calls]
  cases hcourse with
  | @connected s c m connection hc hd hr ht =>
      refine ⟨?_, hr, rfl, rfl⟩
      rw [List.filterMap_append, setup?_configurerCalls]
      rfl

end ConnectPlan

/--
**A route survives the trip through metadata.** For every requester:

* in the formats with tags, and whatever the rules of the extractor are, a route is written
  exactly if it has at most 255 bytes, and else the error says how long it is; what is written
  gives the route and nothing else;
* as plain text, and with the extractor of strategies for which none was chosen, every route is
  written, and gives the route and nothing else;
* if it comes from a plan with a setup route, the transport was handed one setup, and the metadata
  in it is what the requester writes for that route.
-/
theorem Requester.routeMetadata_survives {κ τ : Type} (r : Requester κ) (a : Arena) :
    (RouteMetadata.Tagged r.metadataType → ∀ route,
      ((∃ b, (r.routeMetadata route a).1 = .ok b) ↔ Utf8.length route ≤ 255)
      ∧ (∀ err, (r.routeMetadata route a).1 = .error err
          ↔ 255 < Utf8.length route ∧ err = .metadata (.tooLong .routeTag (Utf8.length route)))
      ∧ ∀ b, (r.routeMetadata route a).1 = .ok b →
          r.extractMetadata b = .ok (MetadataExtractor.onlyRoute route))
    ∧ (r.metadataType.sameFormat .textPlain = true →
        ∀ (builder : Strategies.Builder) (a₀ : Arena), builder.metadataExtractor = none →
        r.strategies.metadataExtractor.value = (builder.build a₀).1.metadataExtractor.value →
      ∀ route, ∃ b, (r.routeMetadata route a).1 = .ok b
        ∧ r.extractMetadata b = .ok (MetadataExtractor.onlyRoute route))
    ∧ ∀ (p : ConnectPlan) (transport : ConnectionSetup → Except τ κ) (a₀ : Arena),
        (p.connect transport a₀).outcome = .ok r → ∀ route, p.setupRoute = some route →
      (p.connect transport a₀).calls.filterMap Call.setup? = [r.setup]
        ∧ ∃ b, r.setup.payload.metadata = some b ∧ (r.routeMetadata route a).1 = .ok b := by
  refine ⟨?tagged, ?textPlain, ?connected⟩
  case tagged =>
    intro htag route
    exact ⟨routeMetadata_eq_ok_iff htag route a, routeMetadata_eq_error_iff htag route a,
      fun b hb => extractMetadata_of_tagged htag hb⟩
  case textPlain =>
    intro htext builder a₀ hnone hx route
    have hfits : ¬ RouteMetadata.TooLong route r.metadataType := fun h =>
      MetadataExtractor.not_tagged_of_textPlain htext h.2
    rw [Strategies.Builder.metadataExtractor_build hnone] at hx
    exact ⟨_, routeMetadata_of_not_tooLong hfits a, extractMetadata_of_textPlain htext hx route⟩
  case connected =>
    intro p transport a₀ hr route hroute
    obtain ⟨hcalls, hfits, htype, hmeta⟩ := ConnectPlan.setup_of_connected hr
    have hlen := hfits route hroute
    rw [← htype] at hlen
    rw [hroute] at hmeta
    exact ⟨hcalls, _, hmeta, routeMetadata_of_not_tooLong hlen a⟩

/-! ### A route of one byte -/

/-- A plan with a short setup route, and metadata of a format. -/
def ConnectPlan.shortRoute (m : MediaType) : ConnectPlan :=
  { ConnectPlan.empty with dataType := some .json, metadataType := some m, setupRoute := some "a" }

/-- The requester that comes of such a plan. -/
def Requester.shortRoute (m : MediaType) : Requester Unit :=
  let s := (Strategies.default .initial).1
  ⟨(), (ConnectPlan.shortRoute m).setup s .default .json, s⟩

theorem ConnectPlan.connect_shortRoute (m : MediaType) :
    ((ConnectPlan.shortRoute m).connect (τ := Empty) (fun _ => .ok ()) .initial).outcome
      = .ok (Requester.shortRoute m) := by
  have hfits : RouteFits (ConnectPlan.shortRoute m) := by
    intro route hroute hlong
    rw [← Option.some.inj hroute] at hlong
    exact absurd hlong.1 (by decide)
  have hcourse : Course (τ := Empty) (ConnectPlan.shortRoute m) (fun _ => .ok ()) .initial _
      (.ok (Requester.shortRoute m)) :=
    Course.connected ⟨Assembled.asGiven rfl, Passes.nil⟩ (Or.inl rfl) hfits rfl
  exact (ends_connect_of_course hcourse).outcome

/-- It comes back out of composite metadata and out of plain text, and it is what the
transport gets. -/
theorem Requester.shortRoute_survives :
    (∃ b, ((shortRoute .compositeMetadata).routeMetadata "a" .initial).1 = .ok b
        ∧ (shortRoute .compositeMetadata).extractMetadata b = .ok (MetadataExtractor.onlyRoute "a")
        ∧ (shortRoute .compositeMetadata).setup.payload.metadata = some b)
      ∧ ∃ b, ((shortRoute .textPlain).routeMetadata "a" .initial).1 = .ok b
        ∧ (shortRoute .textPlain).extractMetadata b = .ok (MetadataExtractor.onlyRoute "a") := by
  have htag : RouteMetadata.Tagged (shortRoute .compositeMetadata).metadataType :=
    Or.inl (MediaType.sameFormat_refl _)
  obtain ⟨htagged, -, hconnected⟩ :=
    routeMetadata_survives (τ := Empty) (shortRoute .compositeMetadata) .initial
  obtain ⟨-, b, hsetup, hb⟩ :=
    hconnected _ _ _ (ConnectPlan.connect_shortRoute .compositeMetadata) "a" rfl
  have htext : (shortRoute .textPlain).metadataType.sameFormat .textPlain = true :=
    MediaType.sameFormat_refl _
  obtain ⟨-, htextPlain, -⟩ := routeMetadata_survives (τ := Empty) (shortRoute .textPlain) .initial
  exact ⟨⟨b, hb, (htagged htag "a").2.2 b hb, hsetup⟩,
    htextPlain htext Strategies.Builder.empty .initial rfl rfl "a"⟩

end SocketStrategies
