import SocketStrategies.Metadata.Routing
import SocketStrategies.Proofs.Metadata.Composite

/-!
# Routes as bytes

A route is one tag of routing metadata, or that tag inside one entry of composite metadata, or
plain text. The first two need the length of the route in one byte, and that is the only thing
that can keep a route from being written: the entry around a tag is never too long.
-/

namespace SocketStrategies.RouteMetadata

/-- Whether routes are written as tags in metadata of a format. -/
def Tagged (format : MediaType) : Prop :=
  format.sameFormat .compositeMetadata = true ∨ format.sameFormat .routing = true

/-- Whether a route is too long for metadata of a format. Plain text has no bound. -/
def TooLong (route : String) (format : MediaType) : Prop :=
  255 < Utf8.length route ∧ Tagged format

/-- A route as the one tag of routing metadata. -/
def tag (route : String) : Bytes := UInt8.ofNat (Utf8.length route) :: Utf8.encode route

/-- A route as metadata of a format. -/
def written (route : String) (format : MediaType) : Bytes :=
  if format.sameFormat .compositeMetadata then Composite.frame ⟨.routing, tag route⟩
  else if format.sameFormat .routing then tag route
  else Utf8.encode route

/-! ## One tag -/

theorem encode_tag {route : String} (h : Utf8.length route ≤ 255) (f : Factory) :
    (Routing.encode [route] f).1 = .ok (tag route) := by
  have hn : ¬ BoundedPart.maxLength .routeTag < Utf8.length route := Nat.not_lt.mpr h
  rw [Routing.encode, Factory.emitFrozen_fst, Routing.write, if_neg hn, Routing.write,
    Output.done_andThen_done, Output.toExcept_done, List.append_nil]
  rfl

theorem encode_long_tag {route : String} (h : 255 < Utf8.length route) (f : Factory) :
    (Routing.encode [route] f).1 = .error (.tooLong .routeTag (Utf8.length route)) := by
  have hn : BoundedPart.maxLength .routeTag < Utf8.length route := h
  rw [Routing.encode, Factory.emitFrozen_fst, Routing.write, if_pos hn, Output.toExcept_stop]

theorem wellKnown_routing : Composite.WellKnown .routing :=
  ⟨(0x7E, .routing), by decide, MediaType.equivalent_refl _⟩

/-- An entry that holds a tag can be written: routing metadata has a number, and a tag is short. -/
theorem writable_tag {route : String} (h : Utf8.length route ≤ 255) :
    Composite.Writable ⟨.routing, tag route⟩ := by
  refine ⟨Or.inl wellKnown_routing, ?_⟩
  show (UInt8.ofNat _ :: Utf8.encode route).length ≤ _
  rw [List.length_cons, Utf8.length_encode]
  omega

/-! ## One route -/

theorem encode_of_not_tooLong {route : String} {format : MediaType} (h : ¬ TooLong route format)
    (f : Factory) : (encode route format f).1 = .ok (written route format) := by
  unfold encode written
  by_cases hc : format.sameFormat .compositeMetadata = true
  · have hlen : Utf8.length route ≤ 255 := Nat.not_lt.mp fun hl => h ⟨hl, Or.inl hc⟩
    have henc := encode_tag hlen f
    rw [if_pos hc, if_pos hc]
    cases hr : Routing.encode [route] f with
    | mk result f' =>
        rw [hr] at henc
        obtain rfl : result = .ok (tag route) := henc
        have hw : ∀ e ∈ [(⟨.routing, tag route⟩ : Composite.Entry)], Composite.Writable e :=
          fun e he => List.mem_singleton.mp he ▸ writable_tag hlen
        dsimp only
        rw [Composite.encode_of_writable hw, List.flatMap_singleton]
  · rw [if_neg hc, if_neg hc]
    by_cases hr : format.sameFormat .routing = true
    · have hlen : Utf8.length route ≤ 255 := Nat.not_lt.mp fun hl => h ⟨hl, Or.inr hr⟩
      rw [if_pos hr, if_pos hr, encode_tag hlen]
    · rw [if_neg hr, if_neg hr]

theorem encode_of_tooLong {route : String} {format : MediaType} (h : TooLong route format)
    (f : Factory) :
    (encode route format f).1 = .error (.tooLong .routeTag (Utf8.length route)) := by
  obtain ⟨hlen, htag⟩ := h
  have henc := encode_long_tag hlen f
  unfold encode
  by_cases hc : format.sameFormat .compositeMetadata = true
  · rw [if_pos hc]
    cases hr : Routing.encode [route] f with
    | mk result f' =>
        rw [hr] at henc
        obtain rfl : result = .error (.tooLong .routeTag (Utf8.length route)) := henc
        rfl
  · rw [if_neg hc, if_pos (htag.resolve_left hc), henc]

end SocketStrategies.RouteMetadata
