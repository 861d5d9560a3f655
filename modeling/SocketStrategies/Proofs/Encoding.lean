import SocketStrategies.Proofs.Buffer.Reachable
import SocketStrategies.Proofs.Codec.Answers
import SocketStrategies.Proofs.Metadata.Route

/-!
# Encoding through a pool

Everything that is encoded, metadata as well as data, is written into a buffer of some factory.
The bytes, or the failure, are those that a heap factory would have led to: what served before
cannot be told from them. And whatever comes of the call, a pool is left in a state from which all
this holds again. In particular an encoder that fails half way gives its buffer back without the
bytes that it has written by then.
-/

namespace SocketStrategies

/-- The factory without a pool. -/
abbrev Factory.plain : Factory := .new .heap

/-- The failures of metadata that come before there is a buffer. There are none. -/
def Unrefused : MetadataError → Prop := fun _ => False

namespace Factory

variable {f : Factory} {max : Nat}

/-! ## The bytes -/

theorem routing_encode_eq (tags : List String) (f : Factory) :
    (Routing.encode tags f).1 = (Routing.encode tags plain).1 := by
  rw [Routing.encode, Routing.encode, emitFrozen_fst, emitFrozen_fst]

theorem composite_encode_eq (es : List Composite.Entry) (f : Factory) :
    (Composite.encode es f).1 = (Composite.encode es plain).1 := by
  rw [Composite.encode, Composite.encode, emitFrozen_fst, emitFrozen_fst]

theorem route_encode_eq (route : String) (format : MediaType) (f : Factory) :
    (RouteMetadata.encode route format f).1 = (RouteMetadata.encode route format plain).1 := by
  by_cases h : RouteMetadata.TooLong route format
  · rw [RouteMetadata.encode_of_tooLong h, RouteMetadata.encode_of_tooLong h]
  · rw [RouteMetadata.encode_of_not_tooLong h, RouteMetadata.encode_of_not_tooLong h]

theorem encoder_encode_eq (e : Encoder) (p : Payload) (format : Option MediaType) (f : Factory) :
    (e.encode p format f).1.map Buffer.freeze = (e.encode p format plain).1.map Buffer.freeze := by
  cases hcan : e.canEncode p.type format with
  | false =>
      obtain ⟨codec, subject, h⟩ := e.encode_of_not_canEncode hcan
      rw [h f, h plain]
  | true =>
      obtain ⟨capacity, o, -, h⟩ := e.encode_of_canEncode hcan
      rw [h f, h plain, freeze_emit, freeze_emit]

/-! ## The pool -/

theorem Reachable.leaves_routing (h : f.Reachable max) (tags : List String) :
    Leaves max f Unrefused (Routing.encode tags f) := h.leaves_emitFrozen _ fun _ _ => id

theorem Reachable.leaves_composite (h : f.Reachable max) (es : List Composite.Entry) :
    Leaves max f Unrefused (Composite.encode es f) := h.leaves_emitFrozen _ fun _ _ => id

/-- A route takes one buffer after the other, if any. -/
theorem Reachable.route (h : f.Reachable max) (route : String) (format : MediaType) :
    (RouteMetadata.encode route format f).2.Reachable max := by
  have htag := (h.leaves_routing [route]).reachable
  unfold RouteMetadata.encode
  split
  · cases hr : Routing.encode [route] f with
    | mk result f' =>
        rw [hr] at htag
        cases result with
        | error err => exact htag
        | ok routing => exact (htag.leaves_composite [⟨.routing, routing⟩]).reachable
  · split
    · exact htag
    · exact h

theorem Reachable.leaves_encoder (h : f.Reachable max) (e : Encoder) (p : Payload)
    (format : Option MediaType) : Leaves max f CodecError.IsUnsupported (e.encode p format f) := by
  cases hcan : e.canEncode p.type format with
  | false =>
      obtain ⟨codec, subject, hrefuse⟩ := e.encode_of_not_canEncode hcan
      rw [hrefuse f]
      exact h.leaves_self (.intro codec subject format)
  | true =>
      obtain ⟨capacity, o, hfail, hemit⟩ := e.encode_of_canEncode hcan
      rw [hemit f]
      refine h.leaves_emit capacity ?_
      intro err herr hrefusal
      exact CodecError.not_isEncode_of_isUnsupported err hrefusal (hfail err herr)

/--
**Encoding does not depend on the factory, and leaves a pool sound.** In a pool that came about by
use, for every input:

* routing metadata, composite metadata, routes and data lead to the bytes, or to the failure, that
  they lead to without a pool;
* where one buffer is asked for, one less waits after a success, and after a failure as many as
  before or the one that was made; a refusal changes nothing;
* whatever waits is empty, and the pool again came about by use.
-/
theorem encode_through_pool (h : f.Reachable max) :
    (∀ tags, (Routing.encode tags f).1 = (Routing.encode tags plain).1
        ∧ Leaves max f Unrefused (Routing.encode tags f))
      ∧ (∀ es, (Composite.encode es f).1 = (Composite.encode es plain).1
          ∧ Leaves max f Unrefused (Composite.encode es f))
      ∧ (∀ route format,
          (RouteMetadata.encode route format f).1 = (RouteMetadata.encode route format plain).1
            ∧ (RouteMetadata.encode route format f).2.Reachable max)
      ∧ ∀ (e : Encoder) p format,
          (e.encode p format f).1.map Buffer.freeze = (e.encode p format plain).1.map Buffer.freeze
            ∧ Leaves max f CodecError.IsUnsupported (e.encode p format f) := by
  refine ⟨?_, ?_, ?_, ?_⟩
  · intro tags
    exact ⟨routing_encode_eq tags f, h.leaves_routing tags⟩
  · intro es
    exact ⟨composite_encode_eq es f, h.leaves_composite es⟩
  · intro route format
    exact ⟨route_encode_eq route format f, h.route route format⟩
  · intro e p format
    exact ⟨encoder_encode_eq e p format f, h.leaves_encoder e p format⟩

/-- A pool for one buffer, which was taken, written to and dropped. -/
def usedPool : Factory :=
  ((Session.after 1 [.work 0 "a" (.allocate 4), .work 0 "a" (.write [1, 2, 3]),
    .work 0 "a" .drop]).workspace 0).factory

/-- A table that is not empty fails after its first brace, and the buffer waits again; a
word takes it away. -/
theorem encode_through_usedPool :
    usedPool.Reachable 1
      ∧ usedPool.idle.length = 1
      ∧ ((Encoder.structured .json .table).encode ⟨.schema .table, Dict.empty.insert [7] 3⟩ none
          usedPool).2.idle.length = 1
      ∧ ((Encoder.text .all).encode ⟨.literal, "ab"⟩ none usedPool).1.map Buffer.freeze
        = .ok [97, 98]
      ∧ ((Encoder.text .all).encode ⟨.literal, "ab"⟩ none usedPool).2.idle.length = 0 := by
  have hreachable : usedPool.Reachable 1 := Session.reachable_after 1 _ 0
  have hidle : usedPool.idle.length = 1 := by decide +kernel
  obtain ⟨-, -, -, hdata⟩ := encode_through_pool hreachable
  obtain ⟨-, htable⟩ :=
    hdata (.structured .json .table) ⟨.schema .table, Dict.empty.insert [7] 3⟩ none
  obtain ⟨hword, hleaves⟩ := hdata (.text .all) ⟨.literal, "ab"⟩ none
  have hfail := htable.failed (.encode WireFormat.json.fullName) (by rfl) (by intro h; cases h)
  have hbytes : ((Encoder.text .all).encode ⟨.literal, "ab"⟩ none plain).1.map Buffer.freeze
      = .ok [97, 98] := by decide +kernel
  rw [hidle] at hfail
  refine ⟨hreachable, hidle, hfail, hword.trans hbytes, ?_⟩
  rw [hleaves.success _ (by rfl), hidle]

end Factory

end SocketStrategies
