import SocketStrategies.Proofs.Codec.Pairing

/-!
# Codecs do what they say

A codec is asked twice: first whether it is able to handle a type in a format, and then to handle
a value. The two questions are answered in different places, and the second one takes the value
apart by its type. Here they are brought together. A codec that is not able to refuses at once,
before it takes a buffer, and one that is able to either succeeds or says that the value has no
written form, or that the bytes are none.

A decoder that only declares formats is no codec in this sense: whatever it claims, it makes no
value.
-/

namespace SocketStrategies

/-! ## Agreement -/

/-- Whether an answer agrees with being able to give one. There is a refusal exactly if one is not
able to, and otherwise a value or the one failure that is left. -/
structure Agrees {ε α : Type} (able : Prop) (refusal failure : ε → Prop)
    (answer : Except ε α) : Prop where
  refused : (∃ err, answer = .error err ∧ refusal err) ↔ ¬ able
  served : ((∃ v, answer = .ok v) ∨ ∃ err, answer = .error err ∧ failure err) ↔ able

namespace Agrees

variable {ε α : Type} {able : Prop} {refusal failure : ε → Prop} {answer : Except ε α}

theorem of_refused (hapart : ∀ err, refusal err → ¬ failure err) (hable : ¬ able) {err : ε}
    (herr : refusal err) (h : answer = .error err) : Agrees able refusal failure answer := by
  refine ⟨⟨fun _ => hable, fun _ => ⟨err, h, herr⟩⟩, ⟨?_, fun ha => absurd ha hable⟩⟩
  rintro (⟨v, hv⟩ | ⟨err', h', hfail⟩)
  · rw [h] at hv
    cases hv
  · rw [h] at h'
    obtain rfl := Except.error.inj h'
    exact absurd hfail (hapart err herr)

theorem of_served (hapart : ∀ err, refusal err → ¬ failure err) (hable : able)
    (h : (∃ v, answer = .ok v) ∨ ∃ err, answer = .error err ∧ failure err) :
    Agrees able refusal failure answer := by
  refine ⟨⟨?_, fun hn => absurd hable hn⟩, ⟨fun _ => hable, fun _ => h⟩⟩
  rintro ⟨err, herr, hrefusal⟩
  rcases h with ⟨v, hv⟩ | ⟨err', h', hfail⟩
  · rw [hv] at herr
    cases herr
  · rw [h'] at herr
    obtain rfl := Except.error.inj herr
    exact absurd hfail (hapart err' hrefusal)

/-- What is done with a value afterwards does not matter. -/
theorem map {β : Type} (h : Agrees able refusal failure answer) (g : α → β) :
    Agrees able refusal failure (answer.map g) := by
  cases answer with
  | error err =>
      refine ⟨?_, ?_⟩
      · simpa [Except.map] using h.refused
      · simpa [Except.map] using h.served
  | ok v =>
      refine ⟨?_, ?_⟩
      · simpa [Except.map] using h.refused
      · simpa [Except.map] using h.served

end Agrees

/-- The failure of a codec that is not for a type or a format. -/
inductive CodecError.IsUnsupported : CodecError → Prop where
  | intro (codec subject : String) (format : Option MediaType) :
      IsUnsupported (.unsupported codec subject format)

/-- The failure to write a value. -/
inductive CodecError.IsEncode : CodecError → Prop where
  | intro (codec : String) : IsEncode (.encode codec)

/-- The failure to read bytes. -/
inductive CodecError.IsDecode : CodecError → Prop where
  | intro (codec : String) : IsDecode (.decode codec)

theorem CodecError.not_isEncode_of_isUnsupported (err : CodecError) (h : err.IsUnsupported) :
    ¬ err.IsEncode := by
  intro he
  cases h
  cases he

theorem CodecError.not_isDecode_of_isUnsupported (err : CodecError) (h : err.IsUnsupported) :
    ¬ err.IsDecode := by
  intro hd
  cases h
  cases hd

/-! ## Decoders -/

namespace Decoder

/-- Whether a decoder makes values, and does not only declare formats. -/
inductive Converts : Decoder → Prop where
  | text (formats : TextFormats) : Converts (.text formats)
  | raw (c : Container) : Converts (.raw c)
  | structured (wire : WireFormat) (s : Schema) (advertised : List MediaType) :
      Converts (.structured wire s advertised)

variable {d : Decoder}

/-- A decoder refuses what it is not able to make. -/
theorem decode_of_not_canDecode (hd : d.Converts) {target : PayloadType}
    {format : Option MediaType} (h : d.canDecode target format = false) (b : Bytes) :
    ∃ codec, d.decode b target format = .error (.unsupported codec "requested type" format) := by
  cases hd with
  | text formats =>
      unfold decode
      rw [h]
      exact ⟨_, rfl⟩
  | raw c =>
      unfold decode
      rw [h]
      exact ⟨_, rfl⟩
  | structured wire s advertised =>
      unfold decode
      rw [h]
      exact ⟨_, rfl⟩

/-- A decoder makes a value of the type that it is able to make, unless the bytes stand for
none. -/
theorem decode_of_canDecode (hd : d.Converts) {target : PayloadType} {format : Option MediaType}
    (h : d.canDecode target format = true) (b : Bytes) :
    (∃ v, d.decode b target format = .ok (some ⟨target, v⟩))
      ∨ ∃ codec, d.decode b target format = .error (.decode codec) := by
  have hcan := h
  cases hd with
  | text formats =>
      rw [canDecode, Bool.and_eq_true, beq_iff_eq] at hcan
      obtain ⟨rfl, -⟩ := hcan
      unfold decode
      rw [h]
      cases Utf8.decode? b with
      | none => exact Or.inr ⟨_, rfl⟩
      | some s => exact Or.inl ⟨s, rfl⟩
  | raw c =>
      rw [canDecode, beq_iff_eq] at hcan
      subst hcan
      unfold decode
      rw [h]
      exact Or.inl ⟨b, rfl⟩
  | structured wire s advertised =>
      rw [canDecode, Bool.and_eq_true, beq_iff_eq] at hcan
      obtain ⟨rfl, -⟩ := hcan
      unfold decode
      rw [h]
      dsimp only
      cases s.read? wire b with
      | none => exact Or.inr ⟨_, rfl⟩
      | some v => exact Or.inl ⟨v, rfl⟩

theorem decodeTo_of_error {target : PayloadType} {b : Bytes} {format : Option MediaType}
    {err : CodecError}
    (h : d.decode b target format = .error err) : d.decodeTo target b format = .error err := by
  unfold decodeTo
  rw [h]
  rfl

/-- **A decoder agrees with itself.** It refuses exactly what it is not able to make, and never
makes a value of another type. -/
theorem agrees (hd : d.Converts) (target : PayloadType) (b : Bytes) (format : Option MediaType) :
    Agrees (d.canDecode target format = true) CodecError.IsUnsupported CodecError.IsDecode
      (d.decodeTo target b format) := by
  have hapart := CodecError.not_isDecode_of_isUnsupported
  cases hcan : d.canDecode target format with
  | false =>
      obtain ⟨codec, h⟩ := decode_of_not_canDecode hd hcan b
      exact Agrees.of_refused hapart Bool.false_ne_true (.intro _ _ _) (decodeTo_of_error h)
  | true =>
      refine Agrees.of_served hapart rfl ?_
      rcases decode_of_canDecode hd hcan b with ⟨v, h⟩ | ⟨codec, h⟩
      · exact Or.inl ⟨v, Pair.decodeTo_of_decode (p := ⟨target, v⟩) h⟩
      · exact Or.inr ⟨_, decodeTo_of_error h, .intro codec⟩

end Decoder

/-! ## Encoders -/

namespace Encoder

/-- An encoder that is not able to write a value refuses before it takes a buffer. -/
theorem encode_of_not_canEncode (e : Encoder) {p : Payload} {format : Option MediaType}
    (h : e.canEncode p.type format = false) :
    ∃ codec subject, ∀ f, e.encode p format f
      = (.error (.unsupported codec subject format), f) := by
  obtain ⟨type, v⟩ := p
  cases e with
  | text formats =>
      have hformat : type = .schema .text ∨ type = .literal →
          ¬ supports formats.mediaTypes format = true := by
        rintro (rfl | rfl) hs
        all_goals
          rw [canEncode, hs] at h
          cases h
      cases type with
      | raw c => exact ⟨_, _, fun f => rfl⟩
      | literal => exact ⟨_, _, fun f => if_neg (hformat (Or.inr rfl))⟩
      | schema s =>
          cases s with
          | text => exact ⟨_, _, fun f => if_neg (hformat (Or.inl rfl))⟩
          | word | integer | quote | event | document | table => exact ⟨_, _, fun f => rfl⟩
  | raw c =>
      cases type with
      | schema s => exact ⟨_, _, fun f => rfl⟩
      | literal => exact ⟨_, _, fun f => rfl⟩
      | raw c' =>
          have hc : ¬ c' = c := by
            rintro rfl
            rw [canEncode, beq_self_eq_true] at h
            cases h
          exact ⟨_, _, fun f => if_neg hc⟩
  | structured wire s =>
      cases type with
      | raw c => exact ⟨_, _, fun f => rfl⟩
      | literal => exact ⟨_, _, fun f => rfl⟩
      | schema s' =>
          have hs : ¬ (s' = s ∧ supports [wire.mediaType] format = true) := by
            rintro ⟨rfl, hformat⟩
            rw [canEncode, hformat, beq_self_eq_true] at h
            cases h
          exact ⟨_, _, fun f => if_neg hs⟩

/-- What an encoder is able to write it puts out into a new buffer, up to where the value has
no written form. -/
theorem encode_of_canEncode (e : Encoder) {p : Payload} {format : Option MediaType}
    (h : e.canEncode p.type format = true) :
    ∃ capacity, ∃ o : Output CodecError, (∀ err, o.failure = some err → err.IsEncode)
      ∧ ∀ f, e.encode p format f = f.emit capacity o := by
  obtain ⟨type, v⟩ := p
  have hdone : ∀ b err, (Output.done b : Output CodecError).failure = some err → err.IsEncode :=
    fun b err hb => by cases hb
  cases e with
  | text formats =>
      rw [canEncode, Bool.and_eq_true, Bool.or_eq_true, beq_iff_eq, beq_iff_eq] at h
      obtain ⟨rfl | rfl, hformat⟩ := h
      · exact ⟨_, _, hdone _, fun f => if_pos hformat⟩
      · exact ⟨_, _, hdone _, fun f => if_pos hformat⟩
  | raw c =>
      rw [canEncode, beq_iff_eq] at h
      subst h
      exact ⟨_, _, hdone _, fun f => if_pos rfl⟩
  | structured wire s =>
      rw [canEncode, Bool.and_eq_true, beq_iff_eq] at h
      obtain ⟨rfl, hformat⟩ := h
      refine ⟨_, _, ?_, fun f => if_pos ⟨rfl, hformat⟩⟩
      intro err herr
      obtain ⟨_, -, rfl⟩ := Option.map_eq_some_iff.mp herr
      exact .intro _

/-- **An encoder agrees with itself.** It refuses exactly what it is not able to write. -/
theorem agrees (e : Encoder) (p : Payload) (format : Option MediaType) (f : Factory) :
    Agrees (e.canEncode p.type format = true) CodecError.IsUnsupported CodecError.IsEncode
      (e.encode p format f).1 := by
  have hapart := CodecError.not_isEncode_of_isUnsupported
  cases hcan : e.canEncode p.type format with
  | false =>
      obtain ⟨codec, subject, h⟩ := encode_of_not_canEncode e hcan
      rw [h f]
      exact Agrees.of_refused hapart Bool.false_ne_true (.intro codec subject format) rfl
  | true =>
      obtain ⟨capacity, o, hfail, h⟩ := encode_of_canEncode e hcan
      refine Agrees.of_served hapart rfl ?_
      rw [h f]
      unfold Factory.emit
      cases ho : o.failure with
      | none => exact Or.inl ⟨_, rfl⟩
      | some err => exact Or.inr ⟨err, rfl, hfail err ho⟩

end Encoder

end SocketStrategies
