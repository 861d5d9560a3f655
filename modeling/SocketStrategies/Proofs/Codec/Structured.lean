import SocketStrategies.Proofs.Codec.Answers

/-!
# What structured codecs do with values

A structured encoder that is asked for its own format puts out what its schema writes, whatever
the factory has in store. A structured decoder that is asked for a format it advertises makes what
its schema reads, and fails if that is nothing.
-/

namespace SocketStrategies

variable {s : Schema} {wire : WireFormat} {format : Option MediaType}

theorem Encoder.encode_of_write {v : s.Carrier} {b : Bytes}
    (hformat : supports [wire.mediaType] format = true)
    (h : s.write wire v = .done b) (f : Factory) :
    ((Encoder.structured wire s).encode ⟨.schema s, v⟩ format f).1.map Buffer.freeze = .ok b := by
  rw [encode, if_pos ⟨rfl, hformat⟩, Factory.freeze_emit, h]
  rfl

variable {advertised : List MediaType}

theorem Decoder.canDecode_structured (hformat : supports advertised format = true) :
    (Decoder.structured wire s advertised).canDecode (.schema s) format = true := by
  rw [canDecode, beq_self_eq_true, hformat]
  rfl

theorem Decoder.decodeTo_of_read {v : s.Carrier} {b : Bytes}
    (hformat : supports advertised format = true) (h : s.read? wire b = some v) :
    (Decoder.structured wire s advertised).decodeTo (.schema s) b format = .ok v := by
  refine Pair.decodeTo_of_decode (p := ⟨.schema s, v⟩) ?_
  unfold decode
  dsimp only
  rw [canDecode_structured hformat, h]
  rfl

theorem Decoder.decodeTo_of_read_eq_none {b : Bytes} (hformat : supports advertised format = true)
    (h : s.read? wire b = none) :
    (Decoder.structured wire s advertised).decodeTo (.schema s) b format
      = .error (.decode wire.fullName) := by
  refine decodeTo_of_error ?_
  unfold decode
  dsimp only
  rw [canDecode_structured hformat, h]
  rfl

end SocketStrategies
