import Mathlib.Data.List.Forall2
import SocketStrategies.Metadata.Composite
import SocketStrategies.Proofs.Buffer.Emission
import SocketStrategies.Proofs.Bytes
import SocketStrategies.Proofs.MediaType.Equality

/-!
# Composite metadata reads back as it was written

An entry is written as a **frame**: a header byte, the text of the media type where the byte does
not already give it, the length of the content and the content. Writing stops at the first entry
that has no frame, because the text is longer than seven bits can say or the content longer than
three bytes can.

Reading a frame never runs short and never meets text that is not UTF-8. The one thing that may go
wrong is that the text of a media type is no media type: a type may print as something that does
not parse, or that parses as another type. So a list of entries comes back as its **rereading**,
entry by entry, and comes back equal exactly where each type without a number survives being
printed and parsed.
-/

namespace SocketStrategies.Composite

/-! ## What can be written -/

/-- Whether a media type has a number. -/
def WellKnown (m : MediaType) : Prop := ∃ k ∈ wellKnown, k.2.equivalent m = true

/-- Whether the header of an entry has a frame: its type has a number, or a short enough text. -/
def ShortHeader (m : MediaType) : Prop := WellKnown m ∨ Utf8.length m.render ≤ 128

/-- Whether an entry can be written. -/
structure Writable (e : Entry) : Prop where
  /-- The type has a number, or its text has at most 128 bytes. -/
  header : ShortHeader e.mediaType
  /-- Three bytes can say how long the content is. -/
  content : e.content.length ≤ 0xFFFFFF

/-- What is wrong with an entry. The type is looked at before the content. -/
inductive Offence (e : Entry) : MetadataError → Prop where
  /-- The type has no number and its text is too long. -/
  | mediaType : ¬ ShortHeader e.mediaType →
      Offence e (.tooLong .mediaType (Utf8.length e.mediaType.render))
  /-- The type is fine and the content is too long. -/
  | content : ShortHeader e.mediaType → 0xFFFFFF < e.content.length →
      Offence e (.tooLong .entry e.content.length)

/-- What is wrong with the first entry that cannot be written. -/
def FirstOffence (es : List Entry) (err : MetadataError) : Prop :=
  ∃ front e back, es = front ++ e :: back ∧ (∀ x ∈ front, Writable x) ∧ Offence e err

theorem writable_or_offence (e : Entry) : Writable e ∨ ∃ err, Offence e err := by
  by_cases hh : ShortHeader e.mediaType
  · rcases Nat.lt_or_ge 0xFFFFFF e.content.length with hc | hc
    · exact Or.inr ⟨_, .content hh hc⟩
    · exact Or.inl ⟨hh, hc⟩
  · exact Or.inr ⟨_, .mediaType hh⟩

theorem writable_or_firstOffence (es : List Entry) :
    (∀ e ∈ es, Writable e) ∨ ∃ err, FirstOffence es err := by
  induction es with
  | nil => exact Or.inl (fun e h => absurd h List.not_mem_nil)
  | cons e es ih =>
      rcases writable_or_offence e with hw | ⟨err, ho⟩
      · rcases ih with h | ⟨err, front, x, back, rfl, hf, ho⟩
        · exact Or.inl (List.forall_mem_cons.mpr ⟨hw, h⟩)
        · exact Or.inr ⟨err, e :: front, x, back, rfl, List.forall_mem_cons.mpr ⟨hw, hf⟩, ho⟩
      · exact Or.inr ⟨err, [], e, es, rfl, fun x h => absurd h List.not_mem_nil, ho⟩

/-! ## The table of numbers -/

theorem wellKnownId?_eq_none_iff {m : MediaType} : wellKnownId? m = none ↔ ¬ WellKnown m := by
  unfold wellKnownId? WellKnown
  rw [Option.map_eq_none_iff, List.find?_eq_none]
  constructor
  · rintro h ⟨k, hk, he⟩
    exact h k hk he
  · intro h k hk he
    exact h ⟨k, hk, he⟩

/-- A number in a header is told from a text length, and the table gives its type back. -/
theorem wellKnownType?_of_mem :
    ∀ k ∈ wellKnown, ((k.1 ||| wellKnownFlag) &&& wellKnownFlag != 0) = true
      ∧ wellKnownType? ((k.1 ||| wellKnownFlag) &&& 0x7F) = some k.2 := by
  decide

/-! ## Frames -/

/-- The first byte of a frame. -/
def headerByte (m : MediaType) : UInt8 :=
  match wellKnownId? m with
  | some id => id ||| wellKnownFlag
  | none => UInt8.ofNat (Utf8.length m.render - 1)

/-- The text of the media type, where the first byte does not give it. -/
def headerText (m : MediaType) : Bytes :=
  match wellKnownId? m with
  | some _ => []
  | none => Utf8.encode m.render

/-- The bytes of an entry. -/
def frame (e : Entry) : Bytes :=
  headerByte e.mediaType :: headerText e.mediaType
    ++ (Bytes.bigEndian 3 e.content.length ++ e.content)

/-- A media type has a slash at least, so its text is never empty. -/
theorem length_render_pos (m : MediaType) : 0 < Utf8.length m.render := by
  unfold MediaType.render Utf8.length
  rw [String.utf8ByteSize_append, String.utf8ByteSize_append, String.utf8ByteSize_append]
  have h : "/".utf8ByteSize = 1 := rfl
  omega

theorem writeHeader_of_short {m : MediaType} (h : ShortHeader m) :
    writeHeader m = .done (headerByte m :: headerText m) := by
  unfold writeHeader headerByte headerText
  cases hid : wellKnownId? m with
  | some id => rfl
  | none =>
      have hlen := h.resolve_left (wellKnownId?_eq_none_iff.mp hid)
      have hpos := length_render_pos m
      have hmax : BoundedPart.maxLength .mediaType = 128 := rfl
      dsimp only
      -- the text is neither empty nor too long
      rw [if_neg (by omega)]

theorem writeHeader_of_not_short {m : MediaType} (h : ¬ ShortHeader m) :
    writeHeader m = .stop (.tooLong .mediaType (Utf8.length m.render)) := by
  obtain ⟨hk, hlen⟩ := not_or.mp h
  have hmax : BoundedPart.maxLength .mediaType = 128 := rfl
  unfold writeHeader
  rw [wellKnownId?_eq_none_iff.mpr hk]
  dsimp only
  rw [if_pos (by omega)]

theorem writeEntry_of_writable {e : Entry} (h : Writable e) : writeEntry e = .done (frame e) := by
  have hc : ¬ BoundedPart.maxLength .entry < e.content.length := Nat.not_lt.mpr h.content
  unfold writeEntry writeContent
  dsimp only
  rw [writeHeader_of_short h.header, if_neg hc, Output.done_andThen_done]
  rfl

theorem toExcept_writeEntry_of_offence {e : Entry} {err : MetadataError} (h : Offence e err)
    (next : Output MetadataError) : ((writeEntry e).andThen next).toExcept = .error err := by
  unfold writeEntry writeContent
  cases h with
  | mediaType hh =>
      rw [writeHeader_of_not_short hh, Output.stop_andThen, Output.stop_andThen,
        Output.toExcept_stop]
  | content hh hc =>
      have hc' : BoundedPart.maxLength .entry < e.content.length := hc
      dsimp only
      rw [writeHeader_of_short hh, if_pos hc']
      rfl

theorem write_cons (e : Entry) (es : List Entry) :
    write (e :: es) = (writeEntry e).andThen (write es) := rfl

/-- What is written is the frames of the entries, one after the other. -/
theorem toExcept_write_of_writable {es : List Entry} (h : ∀ e ∈ es, Writable e) :
    (write es).toExcept = .ok (es.flatMap frame) := by
  induction es with
  | nil => rfl
  | cons e es ih =>
      obtain ⟨he, hes⟩ := List.forall_mem_cons.mp h
      rw [write_cons, writeEntry_of_writable he, Output.toExcept_done_andThen, ih hes,
        List.flatMap_cons]
      rfl

theorem toExcept_write_of_firstOffence {es : List Entry} {err : MetadataError}
    (h : FirstOffence es err) : (write es).toExcept = .error err := by
  obtain ⟨front, e, back, rfl, hf, ho⟩ := h
  induction front with
  | nil => exact toExcept_writeEntry_of_offence ho (write back)
  | cons x front ih =>
      obtain ⟨hx, hf⟩ := List.forall_mem_cons.mp hf
      rw [List.cons_append, write_cons, writeEntry_of_writable hx, Output.toExcept_done_andThen,
        ih hf]
      rfl

theorem encode_of_writable {es : List Entry} (h : ∀ e ∈ es, Writable e) (f : Factory) :
    (encode es f).1 = .ok (es.flatMap frame) := by
  rw [encode, Factory.emitFrozen_fst, toExcept_write_of_writable h]

theorem encode_of_firstOffence {es : List Entry} {err : MetadataError} (h : FirstOffence es err)
    (f : Factory) : (encode es f).1 = .error err := by
  rw [encode, Factory.emitFrozen_fst, toExcept_write_of_firstOffence h]

/-! ## Reading frames -/

/-- The media type that an entry comes back with: the type of the table that equals it, or else
what its text parses to. -/
def reread (m : MediaType) : Except MediaType.ParseError MediaType :=
  match wellKnown.find? fun k => k.2.equivalent m with
  | some k => .ok k.2
  | none => MediaType.parse m.render

theorem need_append (part : MetadataPart) {n : Nat} {a : Bytes} (h : a.length = n) (rest : Bytes) :
    need part n (a ++ rest) = .ok (a, rest) := by
  unfold need
  rw [← h, Bytes.take?_append]

/-- A length less than 128 leaves the top bit of its byte clear. -/
theorem wellKnownFlag_of_lt {n : Nat} (h : n < 128) :
    (UInt8.ofNat n &&& wellKnownFlag != 0) = false := by
  have hall : ∀ i < 128, (UInt8.ofNat i &&& wellKnownFlag != 0) = false := by decide
  exact hall n h

/-- Reading a header finds the type reread, or the fault that its text has. -/
theorem readHeader_frame {m : MediaType} (h : ShortHeader m) (rest : Bytes) :
    readHeader (headerByte m) (headerText m ++ rest)
      = match reread m with
        | .ok m' => .ok (some m', rest)
        | .error cause => .error (.invalidEntryType cause) := by
  unfold headerByte headerText reread
  cases hid : wellKnown.find? fun k => k.2.equivalent m with
  | some k =>
      obtain ⟨hflag, htype⟩ := wellKnownType?_of_mem k (List.mem_of_find?_eq_some hid)
      have hk : wellKnownId? m = some k.1 := by rw [wellKnownId?, hid]; rfl
      rw [hk]
      dsimp only
      rw [readHeader, if_pos hflag, htype]
      rfl
  | none =>
      have hk : wellKnownId? m = none := by rw [wellKnownId?, hid]; rfl
      have hlen := h.resolve_left (wellKnownId?_eq_none_iff.mp hk)
      have hpos := length_render_pos m
      -- the byte is the length less one, so it does not look like a number
      have hflag := wellKnownFlag_of_lt (n := Utf8.length m.render - 1) (by omega)
      have hn : (Utf8.encode m.render).length
          = (UInt8.ofNat (Utf8.length m.render - 1)).toNat + 1 := by
        rw [Utf8.length_encode, UInt8.toNat_ofNat']
        omega
      rw [hk]
      dsimp only
      rw [readHeader, hflag, need_append _ hn]
      simp only [Bool.false_eq_true, if_false, bind, Except.bind, Utf8.decode?_encode]
      cases MediaType.parse m.render with
      | ok m' => rfl
      | error cause => rfl

theorem readContent_append {content : Bytes} (h : content.length ≤ 0xFFFFFF) (rest : Bytes) :
    readContent (Bytes.bigEndian 3 content.length ++ content ++ rest) = .ok (content, rest) := by
  have hn : Bytes.ofBigEndian (Bytes.bigEndian 3 content.length) = content.length :=
    Bytes.ofBigEndian_bigEndian (by omega)
  unfold readContent
  rw [List.append_assoc, need_append _ (Bytes.length_bigEndian 3 _)]
  simp only [bind, Except.bind, hn]
  exact need_append _ rfl rest

theorem decode_cons (header : UInt8) (b : Bytes) :
    decode (header :: b)
      = match readEntry header b with
        | .error err => .error err
        | .ok (entry, rest) => (decode rest).map (entry.toList ++ ·) := by
  rw [decode]
  split
  · rename_i err h
    rw [h]
  · rename_i entry rest h
    rw [h]

/-- **One frame at a time.** Reading a frame and what follows it reads the entry's type and goes
on. -/
theorem decode_frame_append {e : Entry} (h : Writable e) (rest : Bytes) :
    decode (frame e ++ rest)
      = match reread e.mediaType with
        | .ok m => (decode rest).map (⟨m, e.content⟩ :: ·)
        | .error cause => .error (.invalidEntryType cause) := by
  have hread : readEntry (headerByte e.mediaType) (headerText e.mediaType
      ++ (Bytes.bigEndian 3 e.content.length ++ e.content ++ rest))
      = match reread e.mediaType with
        | .ok m => .ok (some ⟨m, e.content⟩, rest)
        | .error cause => .error (.invalidEntryType cause) := by
    unfold readEntry
    rw [readHeader_frame h.header]
    cases reread e.mediaType with
    | ok m =>
        simp only [bind, Except.bind, readContent_append h.content]
        rfl
    | error cause => rfl
  -- the reader takes the first byte off before it looks at the rest of the entry
  rw [frame, List.cons_append, List.cons_append, List.append_assoc, decode_cons, hread]
  cases reread e.mediaType with
  | ok m => rfl
  | error cause => rfl

/-! ## Reading a list of frames -/

/-- An entry and what it comes back as: the type reread, and the same content. -/
def Entry.RereadAs (e e' : Entry) : Prop :=
  reread e.mediaType = .ok e'.mediaType ∧ e'.content = e.content

/-- What is wrong with the text of the first entry that does not come back. -/
def FirstUnreadable (es : List Entry) (cause : MediaType.ParseError) : Prop :=
  ∃ front e back, es = front ++ e :: back ∧ (∀ x ∈ front, ∃ m, reread x.mediaType = .ok m)
    ∧ reread e.mediaType = .error cause

theorem decode_frames_cons {e : Entry} {es : List Entry} (h : ∀ x ∈ e :: es, Writable x) :
    decode ((e :: es).flatMap frame)
      = match reread e.mediaType with
        | .ok m => (decode (es.flatMap frame)).map (⟨m, e.content⟩ :: ·)
        | .error cause => .error (.invalidEntryType cause) := by
  rw [List.flatMap_cons, decode_frame_append (h e List.mem_cons_self)]

theorem rereadAs_or_firstUnreadable (es : List Entry) :
    (∃ es', List.Forall₂ Entry.RereadAs es es') ∨ ∃ cause, FirstUnreadable es cause := by
  induction es with
  | nil => exact Or.inl ⟨[], .nil⟩
  | cons e es ih =>
      -- the first fault is at this entry, or where the rest has it
      cases hr : reread e.mediaType with
      | error cause =>
          exact Or.inr ⟨cause, [], e, es, rfl, fun x h => absurd h List.not_mem_nil, hr⟩
      | ok m =>
          rcases ih with ⟨es', hes⟩ | ⟨cause, front, x, back, rfl, hf, hx⟩
          · exact Or.inl ⟨⟨m, e.content⟩ :: es', .cons ⟨hr, rfl⟩ hes⟩
          · exact Or.inr ⟨cause, e :: front, x, back, rfl,
              List.forall_mem_cons.mpr ⟨⟨m, hr⟩, hf⟩, hx⟩

theorem decode_frames_of_rereadAs {es es' : List Entry} (hw : ∀ e ∈ es, Writable e)
    (h : List.Forall₂ Entry.RereadAs es es') : decode (es.flatMap frame) = .ok es' := by
  induction h with
  | nil => rw [List.flatMap_nil, decode]
  | cons he _ ih =>
      obtain ⟨hm, hc⟩ := he
      rw [decode_frames_cons hw, hm, ih (List.forall_mem_cons.mp hw).2, ← hc]
      rfl

theorem decode_frames_of_firstUnreadable {es : List Entry} {cause : MediaType.ParseError}
    (hw : ∀ e ∈ es, Writable e) (h : FirstUnreadable es cause) :
    decode (es.flatMap frame) = .error (.invalidEntryType cause) := by
  obtain ⟨front, e, back, rfl, hf, he⟩ := h
  -- the frames in front are read one by one, until the reader meets the text at fault
  induction front with
  | nil =>
      rw [List.nil_append] at hw ⊢
      rw [decode_frames_cons hw, he]
  | cons x front ih =>
      obtain ⟨⟨m, hm⟩, hf⟩ := List.forall_mem_cons.mp hf
      rw [List.cons_append] at hw ⊢
      rw [decode_frames_cons hw, hm, ih (List.forall_mem_cons.mp hw).2 hf]
      rfl

theorem decode_frames_eq_ok_iff {es es' : List Entry} (hw : ∀ e ∈ es, Writable e) :
    decode (es.flatMap frame) = .ok es' ↔ List.Forall₂ Entry.RereadAs es es' := by
  refine ⟨fun hd => ?_, decode_frames_of_rereadAs hw⟩
  rcases rereadAs_or_firstUnreadable es with ⟨es'', h⟩ | ⟨cause, h⟩
  · rw [decode_frames_of_rereadAs hw h] at hd
    exact Except.ok.inj hd ▸ h
  · rw [decode_frames_of_firstUnreadable hw h] at hd
    exact absurd hd (by simp)

theorem decode_frames_eq_error_iff {es : List Entry} {err : MetadataError}
    (hw : ∀ e ∈ es, Writable e) :
    decode (es.flatMap frame) = .error err
      ↔ ∃ cause, FirstUnreadable es cause ∧ err = .invalidEntryType cause := by
  constructor
  · intro hd
    rcases rereadAs_or_firstUnreadable es with ⟨es', h⟩ | ⟨cause, h⟩
    · rw [decode_frames_of_rereadAs hw h] at hd
      exact absurd hd (by simp)
    · rw [decode_frames_of_firstUnreadable hw h] at hd
      exact ⟨cause, h, (Except.error.inj hd).symm⟩
  · rintro ⟨cause, h, rfl⟩
    exact decode_frames_of_firstUnreadable hw h

/-! ## Coming back equal -/

/-- An entry comes back equal unless its type has no number and does not survive its own text. -/
theorem reread_equivalent_iff {m : MediaType} :
    (∃ m', reread m = .ok m' ∧ m'.equivalent m = true)
      ↔ (¬ WellKnown m → ∃ m', MediaType.parse m.render = .ok m' ∧ m'.equivalent m = true) := by
  unfold reread
  cases hk : wellKnown.find? fun k => k.2.equivalent m with
  | some k =>
      have he : k.2.equivalent m = true :=
        List.find?_some (p := fun k : UInt8 × MediaType => k.2.equivalent m) hk
      have hwk : WellKnown m := ⟨k, List.mem_of_find?_eq_some hk, he⟩
      exact ⟨fun _ hn => absurd hwk hn, fun _ => ⟨k.2, rfl, he⟩⟩
  | none =>
      have hwk : ¬ WellKnown m := by
        rintro ⟨k, hmem, he⟩
        exact List.find?_eq_none.mp hk k hmem he
      exact ⟨fun h _ => h, fun h => h hwk⟩

theorem Entry.equivalent_iff {a b : Entry} :
    a.equivalent b = true ↔ a.mediaType.equivalent b.mediaType = true ∧ a.content = b.content := by
  rw [Entry.equivalent, Bool.and_eq_true, beq_iff_eq]

theorem rereadAs_equivalent_iff {es : List Entry} :
    (∃ es', List.Forall₂ Entry.RereadAs es es'
        ∧ List.Forall₂ (fun e e' => e'.equivalent e = true) es es')
      ↔ ∀ e ∈ es, ∃ m, reread e.mediaType = .ok m ∧ m.equivalent e.mediaType = true := by
  induction es with
  | nil => exact ⟨fun _ e he => absurd he List.not_mem_nil, fun _ => ⟨[], .nil, .nil⟩⟩
  | cons e es ih =>
      rw [List.forall_mem_cons, ← ih]
      constructor
      · rintro ⟨_, hr, he⟩
        cases hr with
        | cons hr hrs =>
            cases he with
            | cons he hes =>
                exact ⟨⟨_, hr.1, (Entry.equivalent_iff.mp he).1⟩, _, hrs, hes⟩
      · rintro ⟨⟨m, hr, he⟩, es', hrs, hes⟩
        exact ⟨⟨m, e.content⟩ :: es', .cons ⟨hr, rfl⟩ hrs,
          .cons (Entry.equivalent_iff.mpr ⟨he, rfl⟩) hes⟩

/--
**Writing and reading composite metadata agree.** From whatever factory:

* entries are written exactly when each of them is writable, and else the error is the first
  offence;
* what is written reads back as the rereading of the entries, in order and with the same contents,
  or with the fault of the first type whose text does not parse, and with no other error;
* it reads back equal exactly when every type without a number survives its own text.
-/
theorem decode_encode_exact (es : List Entry) (f : Factory) :
    ((∃ b, (encode es f).1 = .ok b) ↔ ∀ e ∈ es, Writable e)
      ∧ (∀ err, (encode es f).1 = .error err ↔ FirstOffence es err)
      ∧ ∀ b, (encode es f).1 = .ok b →
          (∀ es', decode b = .ok es' ↔ List.Forall₂ Entry.RereadAs es es')
          ∧ (∀ err, decode b = .error err
              ↔ ∃ cause, FirstUnreadable es cause ∧ err = .invalidEntryType cause)
          ∧ ((∃ es', decode b = .ok es'
                ∧ List.Forall₂ (fun e e' => e'.equivalent e = true) es es')
              ↔ ∀ e ∈ es, ¬ WellKnown e.mediaType →
                  ∃ m, MediaType.parse e.mediaType.render = .ok m
                    ∧ m.equivalent e.mediaType = true) := by
  rcases writable_or_firstOffence es with hw | ⟨err, ho⟩
  · have henc := encode_of_writable hw f
    refine ⟨⟨fun _ => hw, fun _ => ⟨_, henc⟩⟩, fun err => ⟨fun h => ?_, fun h => ?_⟩,
      fun b hb => ?_⟩
    · rw [henc] at h
      exact absurd h (by simp)
    · exact encode_of_firstOffence h f
    · rw [henc] at hb
      obtain rfl := Except.ok.inj hb
      refine ⟨fun es' => decode_frames_eq_ok_iff hw, fun err => decode_frames_eq_error_iff hw, ?_⟩
      simp only [decode_frames_eq_ok_iff hw, rereadAs_equivalent_iff, reread_equivalent_iff]
  · have henc := encode_of_firstOffence ho f
    refine ⟨⟨fun ⟨b, hb⟩ => ?_, fun h => ⟨_, encode_of_writable h f⟩⟩,
      fun err' => ⟨fun h => ?_, fun h => encode_of_firstOffence h f⟩, fun b hb => ?_⟩
    · rw [henc] at hb
      exact absurd hb (by simp)
    · rw [henc] at h
      exact Except.error.inj h ▸ ho
    · rw [henc] at hb
      exact absurd hb (by simp)

end SocketStrategies.Composite
