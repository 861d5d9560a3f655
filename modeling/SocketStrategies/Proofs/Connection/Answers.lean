import SocketStrategies.Proofs.Codec.Answers
import SocketStrategies.Proofs.Connection.DataTrip

/-!
# Requesters do what their codecs say

A requester asks its codecs one after the other whether they are able to handle a type in its data
format, and hands the value to the first that is. Since codecs agree with themselves, whoever is
found does not refuse: a requester is without a codec exactly if all of them say that they are not
able to, and otherwise all that can go wrong is the value or the bytes. Decoders that never claim
anything may stand among the others, since they are never found.
-/

namespace SocketStrategies

/-- A failure of the codec that was found. -/
def RequesterError.FromCodec (failure : CodecError → Prop) (err : RequesterError) : Prop :=
  ∃ cause, err = .codec cause ∧ failure cause

namespace Requester

variable {κ : Type}

/-- Whether a decoder makes values or never claims to. -/
def Honest (d : Decoder) : Prop :=
  d.Converts ∨ ∀ target format, d.canDecode target format = false

/-- An answer that serves still does when it is handed on. -/
theorem served_mapError {able : Prop} {refusal failure : CodecError → Prop} {α : Type}
    {answer : Except CodecError α} (h : Agrees able refusal failure answer) (hable : able) :
    (∃ v, answer.mapError RequesterError.codec = .ok v)
      ∨ ∃ err, answer.mapError RequesterError.codec = .error err ∧ err.FromCodec failure := by
  rcases h.served.mpr hable with ⟨v, rfl⟩ | ⟨cause, rfl, hcause⟩
  · exact Or.inl ⟨v, rfl⟩
  · exact Or.inr ⟨_, rfl, cause, rfl, hcause⟩

theorem agrees_decodeData (r : Requester κ)
    (hds : ∀ d ∈ r.strategies.decoders.map (·.value), Honest d) (target : PayloadType)
    (b : Bytes) :
    Agrees (∃ d ∈ r.strategies.decoders.map (·.value), d.canDecode target (some r.dataType) = true)
      (· = .noDecoder target r.dataType) (RequesterError.FromCodec CodecError.IsDecode)
      (r.decodeData target b) := by
  have hapart : ∀ err, err = .noDecoder target r.dataType →
      ¬ RequesterError.FromCodec CodecError.IsDecode err := by
    rintro _ rfl ⟨cause, h, -⟩
    cases h
  cases hfind : findDecoder? (r.strategies.decoders.map (·.value)) target (some r.dataType) with
  | none =>
      refine Agrees.of_refused hapart ?_ rfl (decodeData_of_not_found hfind b)
      rintro ⟨d, hd, hcan⟩
      exact List.find?_eq_none.mp hfind d hd hcan
  | some d =>
      have hmem := List.mem_of_find?_eq_some hfind
      have hcan :=
        List.find?_some (p := fun d : Decoder => d.canDecode target (some r.dataType)) hfind
      refine Agrees.of_served hapart ⟨d, hmem, hcan⟩ ?_
      rcases hds d hmem with hd | hnever
      · rw [decodeData_of_find hfind]
        exact served_mapError (d.agrees hd target b (some r.dataType)) hcan
      · rw [hnever] at hcan
        cases hcan

theorem agrees_encodeData (r : Requester κ) (p : Payload) (a : Arena) :
    Agrees (∃ e ∈ r.strategies.encoders.map (·.value), e.canEncode p.type (some r.dataType) = true)
      (· = .noEncoder p.type r.dataType) (RequesterError.FromCodec CodecError.IsEncode)
      (r.encodeData p a).1 := by
  have hapart : ∀ err, err = .noEncoder p.type r.dataType →
      ¬ RequesterError.FromCodec CodecError.IsEncode err := by
    rintro _ rfl ⟨cause, h, -⟩
    cases h
  cases hfind : findEncoder? (r.strategies.encoders.map (·.value)) p.type (some r.dataType) with
  | none =>
      refine Agrees.of_refused hapart ?_ rfl (encodeData_of_not_found hfind a)
      rintro ⟨e, he, hcan⟩
      exact List.find?_eq_none.mp hfind e he hcan
  | some e =>
      have hmem := List.mem_of_find?_eq_some hfind
      have hcan :=
        List.find?_some (p := fun e : Encoder => e.canEncode p.type (some r.dataType)) hfind
      refine Agrees.of_served hapart ⟨e, hmem, hcan⟩ ?_
      rw [encodeData_of_find hfind]
      exact served_mapError ((e.agrees p (some r.dataType) _).map Buffer.freeze) hcan

/--
**Capability answers and behaviour agree.** Of single codecs, for every type, format,
input and factory:

* a decoder refuses exactly what it says it is not able to make, and otherwise gives a value of
  the type or says that it cannot read the bytes;
* an encoder refuses exactly what it says it is not able to write, and otherwise gives a buffer or
  says that it cannot write the value.

Of a requester with such codecs, and with any decoders besides that never claim to be able to:

* it has no decoder for a type exactly if none of its decoders is able to make the type in its
  data format, and otherwise gives a value or passes on that the bytes cannot be read;
* it has no encoder for a value exactly if none of its encoders is able to write its type in its
  data format, and otherwise gives bytes or passes on that the value cannot be written.
-/
theorem capability_settles_data (r : Requester κ)
    (hds : ∀ d ∈ r.strategies.decoders.map (·.value), Honest d) :
    (∀ d : Decoder, d.Converts → ∀ target b format,
        Agrees (d.canDecode target format = true) CodecError.IsUnsupported CodecError.IsDecode
          (d.decodeTo target b format))
      ∧ (∀ (e : Encoder) p format f,
          Agrees (e.canEncode p.type format = true) CodecError.IsUnsupported CodecError.IsEncode
            (e.encode p format f).1)
      ∧ (∀ target b,
          Agrees (∃ d ∈ r.strategies.decoders.map (·.value),
            d.canDecode target (some r.dataType) = true)
            (· = .noDecoder target r.dataType) (RequesterError.FromCodec CodecError.IsDecode)
            (r.decodeData target b))
      ∧ ∀ p a,
          Agrees (∃ e ∈ r.strategies.encoders.map (·.value),
            e.canEncode p.type (some r.dataType) = true)
            (· = .noEncoder p.type r.dataType) (RequesterError.FromCodec CodecError.IsEncode)
            (r.encodeData p a).1 := by
  refine ⟨?_, ?_, ?_, ?_⟩
  · intro d hd target b format
    exact d.agrees hd target b format
  · intro e p format f
    exact e.agrees p format f
  · intro target b
    exact r.agrees_decodeData hds target b
  · intro p a
    exact r.agrees_encodeData p a

/-- A requester for plain text. One of its decoders only declares a format, and one is for
another format. -/
def forNotes : Requester Unit where
  connection := ()
  setup := Connector.default.finish .textPlain .compositeMetadata .zeroCopy ⟨none, none⟩
  strategies := { (Strategies.default .initial).1 with
    encoders := [⟨1, .text .plainOnly⟩, ⟨2, .structured .json .quote⟩]
    decoders := [⟨3, .declared [.xml] false⟩, ⟨4, .ofSchema .json .quote⟩, ⟨5, .text .plainOnly⟩] }

theorem honest_forNotes : ∀ d ∈ forNotes.strategies.decoders.map (·.value), Honest d := by
  intro d hd
  simp only [forNotes, List.map_cons, List.map_nil, List.mem_cons, List.not_mem_nil,
    or_false] at hd
  rcases hd with rfl | rfl | rfl
  · exact Or.inr fun _ _ => rfl
  · exact Or.inl (.structured ..)
  · exact Or.inl (.text _)

/-- Any bytes are text or cannot be read; quotes have no decoder, and no encoder either. -/
theorem forNotes_answers :
    (∀ b, (∃ s, forNotes.decodeData (.schema .text) b = .ok s)
        ∨ ∃ err, forNotes.decodeData (.schema .text) b = .error err
          ∧ err.FromCodec CodecError.IsDecode)
      ∧ (∀ b, forNotes.decodeData (.schema .quote) b
          = .error (.noDecoder (.schema .quote) .textPlain))
      ∧ (forNotes.encodeData ⟨.schema .quote, ⟨"RS", 3⟩⟩ .initial).1
          = .error (.noEncoder (.schema .quote) .textPlain) := by
  obtain ⟨-, -, hdecode, hencode⟩ := capability_settles_data forNotes honest_forNotes
  have htext : ∃ d ∈ forNotes.strategies.decoders.map (·.value),
      d.canDecode (.schema .text) (some forNotes.dataType) = true := by decide +kernel
  have hquote : ¬ ∃ d ∈ forNotes.strategies.decoders.map (·.value),
      d.canDecode (.schema .quote) (some forNotes.dataType) = true := by decide +kernel
  have hwrite : ¬ ∃ e ∈ forNotes.strategies.encoders.map (·.value),
      e.canEncode (.schema .quote) (some forNotes.dataType) = true := by decide +kernel
  refine ⟨?_, ?_, ?_⟩
  · intro b
    exact (hdecode (.schema .text) b).served.mpr htext
  · intro b
    obtain ⟨err, h, rfl⟩ := (hdecode (.schema .quote) b).refused.mpr hquote
    exact h
  · obtain ⟨err, h, rfl⟩ := (hencode ⟨.schema .quote, ⟨"RS", 3⟩⟩ .initial).refused.mpr hwrite
    exact h

end Requester

end SocketStrategies
