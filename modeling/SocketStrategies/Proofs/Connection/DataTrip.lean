import SocketStrategies.Connection.Requester
import SocketStrategies.Proofs.Codec.Pairing

/-!
# Data through a requester

A requester looks for an encoder and for a decoder in two lists that know nothing of each other.
Where the lists are pairs, position by position, both searches end at the same pair or find
nothing, whatever the data format is. So a value comes back from what was encoded of it, and
whether there is a codec for a type is the same question in both directions.
-/

namespace SocketStrategies.Requester

variable {κ : Type} {r : Requester κ}

/-- Whether the encoders and the decoders of a requester are pairs, position by position. -/
def Paired (r : Requester κ) : Prop :=
  List.Forall₂ Pair (r.strategies.encoders.map (·.value)) (r.strategies.decoders.map (·.value))

/-! ## Encoding and decoding with the codec that was found -/

theorem encodeData_of_find {p : Payload} {e : Encoder}
    (h : findEncoder? (r.strategies.encoders.map (·.value)) p.type (some r.dataType) = some e)
    (a : Arena) :
    (r.encodeData p a).1
      = ((e.encode p (some r.dataType) (a.factory r.strategies.bufferFactory)).1.map
          Buffer.freeze).mapError .codec := by
  unfold encodeData Arena.withFactory
  rw [h]

theorem encodeData_of_not_found {p : Payload}
    (h : findEncoder? (r.strategies.encoders.map (·.value)) p.type (some r.dataType) = none)
    (a : Arena) :
    (r.encodeData p a).1 = .error (.noEncoder p.type r.dataType) := by
  unfold encodeData
  rw [h]

theorem decodeData_of_find {type : PayloadType} {d : Decoder}
    (h : findDecoder? (r.strategies.decoders.map (·.value)) type (some r.dataType) = some d)
    (b : Bytes) :
    r.decodeData type b = (d.decodeTo type b (some r.dataType)).mapError .codec := by
  unfold decodeData
  rw [h]

theorem decodeData_of_not_found {type : PayloadType}
    (h : findDecoder? (r.strategies.decoders.map (·.value)) type (some r.dataType) = none)
    (b : Bytes) :
    r.decodeData type b = .error (.noDecoder type r.dataType) := by
  unfold decodeData
  rw [h]

theorem mapError_eq_ok {α ε ε' : Type} {result : Except ε α} {f : ε → ε'} {v : α}
    (h : result.mapError f = .ok v) : result = .ok v := by
  cases result with
  | error err => cases h
  | ok w => exact congrArg Except.ok (Except.ok.inj h)

/-- A codec that was found never fails for want of a codec. -/
theorem mapError_codec_ne {α : Type} {result : Except CodecError α} {err : RequesterError}
    (herr : ∀ cause, err ≠ .codec cause) : result.mapError .codec ≠ .error err := by
  cases result with
  | error cause => exact fun h => herr cause (Except.error.inj h).symm
  | ok v => exact fun h => by cases h

/--
**Data comes back through a requester.** Its encoders and decoders are pairs, and its data format
is any. For every value but literal text:

* if what is written of the value reads back in its wire formats, then what is encoded is
  decoded as the value;
* what is written does read back, for every type but JSON values, as long as eight bytes can count
  it;
* no encoder is found for a type exactly if no decoder is, whatever the bytes are that it is asked
  for.
-/
theorem decodeData_encodeData (hpairs : r.Paired) {p : Payload} (hp : p.type ≠ .literal)
    (a : Arena) :
    (p.Restored → ∀ b, (r.encodeData p a).1 = .ok b → r.decodeData p.type b = .ok p.value)
      ∧ (p.type ≠ .schema .document → p.Countable → p.Restored)
      ∧ ∀ b, (∃ type format, (r.encodeData p a).1 = .error (.noEncoder type format))
          ↔ ∃ type format, r.decodeData p.type b = .error (.noDecoder type format) := by
  refine ⟨fun hrestored b hb => ?_, Payload.restored_of_countable, fun b => ?_⟩
  · rcases Pair.find?_cases hpairs hp (some r.dataType) with
      ⟨hnone, -⟩ | ⟨e, d, he, hd, hpair, hcan⟩
    · rw [encodeData_of_not_found hnone] at hb
      cases hb
    · rw [encodeData_of_find he] at hb
      rw [decodeData_of_find hd, hpair.decodeTo_of_encode hrestored hcan (mapError_eq_ok hb)]
      rfl
  · rcases Pair.find?_cases hpairs hp (some r.dataType) with ⟨hnone, hnone'⟩ | ⟨e, d, he, hd, -⟩
    · exact ⟨fun _ => ⟨_, _, decodeData_of_not_found hnone' b⟩,
        fun _ => ⟨_, _, encodeData_of_not_found hnone a⟩⟩
    · constructor
      · rintro ⟨type, format, h⟩
        rw [encodeData_of_find he] at h
        exact absurd h (mapError_codec_ne fun cause => by simp)
      · rintro ⟨type, format, h⟩
        rw [decodeData_of_find hd] at h
        exact absurd h (mapError_codec_ne fun cause => by simp)

/-- A requester for quotes in JSON, and for text. -/
def forQuotes : Requester Unit where
  connection := ()
  setup := Connector.default.finish .json .compositeMetadata .zeroCopy ⟨none, none⟩
  strategies := { (Strategies.default .initial).1 with
    encoders := [⟨1, .structured .json .quote⟩, ⟨2, .text .all⟩]
    decoders := [⟨3, .ofSchema .json .quote⟩, ⟨4, .text .all⟩] }

theorem paired_forQuotes : forQuotes.Paired :=
  List.Forall₂.cons (.structured .json .quote) (List.Forall₂.cons (.text .all) List.Forall₂.nil)

/-- A quote comes back, and there is no decoder for numbers since there is no encoder for them. -/
theorem forQuotes_dataTrip :
    (∃ b, (forQuotes.encodeData ⟨.schema .quote, ⟨"RS", 3⟩⟩ .initial).1 = .ok b
        ∧ forQuotes.decodeData (.schema .quote) b = .ok ⟨"RS", 3⟩)
      ∧ ∀ b, ∃ type format, forQuotes.decodeData (.schema .word) b
        = .error (.noDecoder type format) := by
  have hquote : (PayloadType.schema .quote) ≠ .literal := by decide
  have hword : (PayloadType.schema .word) ≠ .literal := by decide
  obtain ⟨htrip, hrestored, -⟩ :=
    decodeData_encodeData paired_forQuotes (p := ⟨.schema .quote, ⟨"RS", 3⟩⟩) hquote .initial
  obtain ⟨-, -, hcodec⟩ :=
    decodeData_encodeData paired_forQuotes (p := ⟨.schema .word, 3⟩) hword .initial
  have hb : (forQuotes.encodeData ⟨.schema .quote, ⟨"RS", 3⟩⟩ .initial).1
      = .ok (Quote.toTree ⟨"RS", 3⟩).write := by decide +kernel
  have hno : (forQuotes.encodeData ⟨.schema .word, 3⟩ .initial).1
      = .error (.noEncoder (.schema .word) .json) := by decide +kernel
  have hcountable : (Schema.writeBinary .quote ⟨"RS", 3⟩).length < UInt64.size := by decide +kernel
  exact ⟨⟨_, hb, htrip (hrestored (by decide) hcountable) _ hb⟩,
    fun b => (hcodec b).mp ⟨_, _, hno⟩⟩

end SocketStrategies.Requester
