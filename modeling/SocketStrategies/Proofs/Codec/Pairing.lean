import Mathlib.Data.List.Forall2
import SocketStrategies.Codec.Basic
import SocketStrategies.Proofs.Payload.Schema

/-!
# The two halves of a codec

An encoder and a decoder are a pair if they are made for the same values in the same formats. They
answer alike when they are asked for a type and a format, except for text that is part of a
program, which can be written and not read. Where encoders and decoders stand in pairs, the first
that is able to write a value is therefore paired with the first that is able to read it, and what
it wrote is read as the value.
-/

namespace SocketStrategies

/-- An encoder and the decoder that belongs to it. -/
inductive Pair : Encoder → Decoder → Prop where
  | text (formats : TextFormats) : Pair (.text formats) (.text formats)
  | raw (c : Container) : Pair (.raw c) (.raw c)
  | structured (wire : WireFormat) (s : Schema) : Pair (.structured wire s) (.ofSchema wire s)

namespace Pair

variable {e : Encoder} {d : Decoder} {format : Option MediaType}

/-! ## Being able to -/

theorem canEncode_eq_canDecode (h : Pair e d) {type : PayloadType} (htype : type ≠ .literal)
    (format : Option MediaType) : e.canEncode type format = d.canDecode type format := by
  cases h with
  | text formats =>
      have hliteral : (type == PayloadType.literal) = false := beq_eq_false_iff_ne.mpr htype
      rw [Encoder.canEncode, Decoder.canDecode, hliteral, Bool.or_false]
  | raw c => rfl
  | structured wire s => rfl

/-- Searches through pairs come to the same pair. -/
theorem find?_cases {es : List Encoder} {ds : List Decoder} (h : List.Forall₂ Pair es ds)
    {type : PayloadType} (htype : type ≠ .literal) (format : Option MediaType) :
    (findEncoder? es type format = none ∧ findDecoder? ds type format = none)
      ∨ ∃ e d, findEncoder? es type format = some e ∧ findDecoder? ds type format = some d
        ∧ Pair e d ∧ d.canDecode type format = true := by
  unfold findEncoder? findDecoder?
  induction h with
  | nil => exact Or.inl ⟨rfl, rfl⟩
  | @cons e d es ds hpair _ ih =>
      have hsame := hpair.canEncode_eq_canDecode htype format
      rw [List.find?_cons, List.find?_cons, hsame]
      cases hcan : d.canDecode type format with
      | true => exact Or.inr ⟨e, d, rfl, rfl, hpair, hcan⟩
      | false => exact ih

/-! ## Writing and reading -/

/-- What a decoder made for a type is a value of this type. -/
theorem decodeTo_of_decode {b : Bytes} {p : Payload}
    (h : d.decode b p.type format = .ok (some p)) :
    d.decodeTo p.type b format = .ok p.value := by
  unfold Decoder.decodeTo
  rw [h]
  exact dif_pos rfl

/-- What the one half wrote of a value is read by the other half as this value. -/
theorem decodeTo_of_encode (h : Pair e d) {p : Payload} (hp : p.Restored)
    (hcan : d.canDecode p.type format = true) {f : Factory} {b : Bytes}
    (hb : (e.encode p format f).1.map Buffer.freeze = .ok b) :
    d.decodeTo p.type b format = .ok p.value := by
  refine decodeTo_of_decode ?_
  obtain ⟨type, v⟩ := p
  cases h with
  | text formats =>
      have hcan' := hcan
      rw [Decoder.canDecode, Bool.and_eq_true, beq_iff_eq] at hcan'
      obtain ⟨htype, hformat⟩ := hcan'
      dsimp only at htype
      subst htype
      rw [Encoder.encode, if_pos hformat, Factory.freeze_emit, Output.toExcept_done] at hb
      obtain rfl := Except.ok.inj hb
      unfold Decoder.decode
      dsimp only
      rw [if_pos hcan, Utf8.decode?_encode]
      rfl
  | raw c =>
      have htype := hcan
      rw [Decoder.canDecode, beq_iff_eq] at htype
      dsimp only at htype
      subst htype
      rw [Encoder.encode, if_pos rfl, Factory.freeze_emit, Output.toExcept_done] at hb
      obtain rfl := Except.ok.inj hb
      unfold Decoder.decode
      dsimp only
      rw [if_pos hcan]
  | structured wire s =>
      have hcan' := hcan
      rw [Decoder.ofSchema, Decoder.canDecode, Bool.and_eq_true, beq_iff_eq] at hcan'
      obtain ⟨htype, hformat⟩ := hcan'
      dsimp only at htype
      subst htype
      rw [Encoder.encode, if_pos ⟨rfl, hformat⟩, Factory.freeze_emit] at hb
      have hread := hp wire b (Output.toExcept_of_mapFailure hb)
      unfold Decoder.ofSchema Decoder.decode
      dsimp only
      rw [hread]
      exact if_pos hcan

end Pair

end SocketStrategies
