import SocketStrategies.Proofs.Binary.Prefix
import SocketStrategies.Proofs.Codec.Structured

/-!
# Compact binary data tells where a value ends

A record is read part by part, so its reader is stable because those of its parts are, and the
same goes for tables. Therefore a value is decoded from what was encoded of it whatever follows,
and from no part of that: the codec is prefix-free, and values may stand one behind another with
nothing between them.
-/

namespace SocketStrategies

open Binary (Stable)

theorem Quote.stable_read : Stable Quote.read :=
  Binary.stable_text.bind fun symbol => Binary.stable_uint32.bind fun price =>
    .pure (Quote.mk symbol price)

/-- The number of a choice says which parts follow. -/
theorem EventKind.stable_read : Stable EventKind.read := by
  intro b k rest h more
  rw [EventKind.read] at h ⊢
  obtain ⟨⟨choice, parts⟩, hchoice, hparts⟩ := Option.bind_eq_some_iff.mp h
  rw [Binary.stable_uint32 _ _ _ hchoice more]
  dsimp only [Option.bind_eq_bind, Option.bind_some] at hparts ⊢
  by_cases hping : choice = 0
  · rw [if_pos hping] at hparts ⊢
    exact Stable.pure EventKind.ping parts k rest hparts more
  rw [if_neg hping] at hparts ⊢
  by_cases hdata : choice = 1
  · rw [if_pos hdata] at hparts ⊢
    have hstable := Binary.stable_bytes.bind fun raw => .pure (EventKind.data raw)
    exact hstable parts k rest hparts more
  rw [if_neg hdata] at hparts ⊢
  by_cases hpoint : choice = 2
  · rw [if_pos hpoint] at hparts ⊢
    have hstable := Binary.stable_int32.bind fun x => Binary.stable_int32.bind fun y =>
      .pure (EventKind.point x y)
    exact hstable parts k rest hparts more
  · rw [if_neg hpoint] at hparts
    cases hparts

theorem Event.stable_read : Stable Event.read :=
  Binary.stable_uint64.bind fun id => Binary.stable_int64.bind fun delta =>
    Binary.stable_text.bind fun name => (Binary.stable_list Binary.stable_text).bind fun tags =>
      (Binary.stable_optional Binary.stable_text).bind fun note =>
        Binary.stable_bool.bind fun flag =>
          EventKind.stable_read.bind fun kind => .pure (Event.mk id delta name tags note flag kind)

namespace Schema

theorem stable_row : Stable readRow :=
  Binary.stable_bytes.bind fun key => Binary.stable_uint32.bind fun value => .pure (key, value)

theorem stable_binary (s : Schema) : Stable s.readBinary := by
  cases s with
  | text => exact Binary.stable_text
  | word => exact Binary.stable_uint32
  | integer => exact Binary.stable_int64
  | quote => exact Quote.stable_read
  | event => exact Event.stable_read
  | document => exact .fail
  | table => exact (Binary.stable_list stable_row).map Dict.ofList

end Schema

/--
**The compact binary codec is prefix-free.** For every value of every type but JSON values, whose
length eight bytes can say, there are bytes such that:

* an encoder of the type writes these bytes, whichever factory it takes its buffer from;
* a decoder of the type makes the value of them, whatever follows them;
* it makes no value of any part of them that lacks something at the end, and says that
  decoding failed.

The encoder may be asked for any format that is compatible with its own, and the decoder for any
that is compatible with one it advertises.
-/
theorem binary_prefixFree {s : Schema} (hs : s ≠ .document) {v : s.Carrier}
    (hlen : Payload.Countable ⟨.schema s, v⟩) {advertised : List MediaType}
    {format format' : Option MediaType}
    (hformat : supports [WireFormat.binary.mediaType] format = true)
    (hformat' : supports advertised format' = true) :
    ∃ b : Bytes,
      (∀ f, ((Encoder.structured .binary s).encode ⟨.schema s, v⟩ format f).1.map Buffer.freeze
        = .ok b)
      ∧ (∀ more, (Decoder.structured .binary s advertised).decodeTo (.schema s) (b ++ more) format'
        = .ok v)
      ∧ ∀ part missing, part ++ missing = b → missing ≠ [] →
          (Decoder.structured .binary s advertised).decodeTo (.schema s) part format'
            = .error (.decode WireFormat.binary.fullName) := by
  have hreads := Schema.reads_binary hs v
  refine ⟨s.writeBinary v, fun f => ?_, fun more => ?_, fun part missing hpart hmissing => ?_⟩
  · exact Encoder.encode_of_write hformat rfl f
  · have hread := hreads hlen more
    exact Decoder.decodeTo_of_read hformat' (by rw [Schema.read?, hread]; rfl)
  · have hnone := s.stable_binary.eq_none_of_part hreads hlen hpart hmissing
    exact Decoder.decodeTo_of_read_eq_none hformat' (by rw [Schema.read?, hnone]; rfl)

/-- An event with a remark and two tags, one of them empty. -/
def taggedEvent : Event := ⟨7, -1, "é", ["", "a"], some "n", true, .point 1 (-2)⟩

/-- The event is written in 74 bytes. They are decoded in front of a first byte of their own, and
not without the last one. -/
theorem binary_prefixFree_event :
    ((Encoder.structured .binary .event).encode ⟨.schema .event, taggedEvent⟩ none
      (.new .heap)).1.map Buffer.freeze
        = .ok taggedEvent.write
      ∧ taggedEvent.write.length = 74
      ∧ (Decoder.ofSchema .binary .event).decodeTo (.schema .event) (taggedEvent.write ++ [7]) none
          = .ok taggedEvent
      ∧ (Decoder.ofSchema .binary .event).decodeTo (.schema .event)
        (taggedEvent.write.take 73) none
          = .error (.decode WireFormat.binary.fullName) := by
  have hlen : taggedEvent.write.length = 74 := by decide +kernel
  have hcountable : Payload.Countable ⟨.schema .event, taggedEvent⟩ := by
    show taggedEvent.write.length < UInt64.size
    rw [hlen]
    decide
  have hnone : ∀ formats, supports formats none = true := fun _ => rfl
  obtain ⟨b, hencode, hdecode, hpart⟩ := binary_prefixFree (by decide) hcountable (hnone _)
    (hnone [WireFormat.binary.mediaType])
  have hb : b = taggedEvent.write :=
    Except.ok.inj ((hencode (.new .heap)).symm.trans (Encoder.encode_of_write (hnone _) rfl _))
  subst hb
  refine ⟨hencode _, hlen, hdecode [7], hpart _ _ (List.take_append_drop 73 _) fun hnil => ?_⟩
  have hrest := congrArg List.length hnil
  rw [List.length_drop, hlen] at hrest
  cases hrest

end SocketStrategies
