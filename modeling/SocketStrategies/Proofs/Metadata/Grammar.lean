import SocketStrategies.Proofs.Items
import SocketStrategies.Proofs.Metadata.Cursor

/-!
# The grammar of composite metadata

Composite metadata is a list of **frames**, one after the other. A frame is a header, a length
in three bytes and as many bytes of content, and the header is a number with its top bit set or
the text of a media type after its length less one. `FramesOf` says so without reading anything,
and says which entry each frame stands for: one with its content, or none where the number is
not in the table.

A frame is broken where it is cut off, or where the text of its media type is complete but cannot
be read, and there is one rule for each way. Reading finds the entries of the frames, or what is
wrong with the first that is broken.
-/

namespace SocketStrategies.Composite

/-! ## Frames -/

/-- A header, given by its first byte and what follows it, and the media type that it stands
for. -/
inductive HeaderOf : UInt8 → Bytes → Option MediaType → Prop where
  /-- The number of a type in the table, with the top bit set. -/
  | known {h : UInt8} {k : UInt8 × MediaType} :
      k ∈ wellKnown → h.toNat = 128 + k.1.toNat → HeaderOf h [] (some k.2)
  /-- Any other number. -/
  | unknown {h : UInt8} :
      128 ≤ h.toNat → (∀ k ∈ wellKnown, h.toNat ≠ 128 + k.1.toNat) → HeaderOf h [] none
  /-- The length of a text less one, and the text. -/
  | text {h : UInt8} {s : String} {m : MediaType} :
      h.toNat < 128 → Utf8.length s = h.toNat + 1 → MediaType.parse s = .ok m →
      HeaderOf h (Utf8.encode s) (some m)

/-- A frame and what it stands for: an entry, or nothing where it is to be skipped. -/
inductive FrameOf : Bytes → List Entry → Prop where
  | mk {h : UInt8} {t content : Bytes} {m : Option MediaType} :
      HeaderOf h t m → content.length ≤ 0xFFFFFF →
      FrameOf (h :: (t ++ (Bytes.bigEndian 3 content.length ++ content)))
        (m.map fun m => ⟨m, content⟩).toList

/-- Frames one after the other, and the entries that they stand for. -/
abbrev FramesOf : Bytes → List Entry → Prop := ItemsOf FrameOf

/-! ## Broken frames -/

/-- What is wrong with bytes that start with no header. -/
inductive BrokenHeader : UInt8 → Bytes → MetadataError → Prop where
  /-- The text is cut off. -/
  | cut {h : UInt8} {b : Bytes} :
      h.toNat < 128 → b.length < h.toNat + 1 → BrokenHeader h b (.truncated .mediaType)
  /-- The text is complete and is no text. -/
  | notUtf8 {h : UInt8} {raw b : Bytes} :
      h.toNat < 128 → raw.length = h.toNat + 1 → (∀ s, raw ≠ Utf8.encode s) →
      BrokenHeader h (raw ++ b) (.invalidUtf8 "composite entry mime")
  /-- The text is no media type. -/
  | notType {h : UInt8} {s : String} {b : Bytes} {cause : MediaType.ParseError} :
      h.toNat < 128 → Utf8.length s = h.toNat + 1 → MediaType.parse s = .error cause →
      BrokenHeader h (Utf8.encode s ++ b) (.invalidEntryType cause)

/-- What is wrong with bytes that start with no frame. -/
inductive BrokenFrame : Bytes → MetadataError → Prop where
  | header {h : UInt8} {b : Bytes} {err : MetadataError} :
      BrokenHeader h b err → BrokenFrame (h :: b) err
  /-- The length of the content is cut off. -/
  | length {h : UInt8} {t b : Bytes} {m : Option MediaType} :
      HeaderOf h t m → b.length < 3 → BrokenFrame (h :: (t ++ b)) (.truncated .entryLength)
  /-- The content is cut off. -/
  | content {h : UInt8} {t b : Bytes} {m : Option MediaType} {n : Nat} :
      HeaderOf h t m → n ≤ 0xFFFFFF → b.length < n →
      BrokenFrame (h :: (t ++ (Bytes.bigEndian 3 n ++ b))) (.truncated .entryContent)

/-! ## Reading a header -/

/-- The top bit marks a number, and the other bits are the number. -/
theorem number_of_le {h : UInt8} (hn : 128 ≤ h.toNat) :
    (h &&& wellKnownFlag != 0) = true ∧ h.toNat = 128 + (h &&& 0x7F).toNat := by
  have hall : ∀ i < 128, (UInt8.ofNat (128 + i) &&& wellKnownFlag != 0) = true
      ∧ (UInt8.ofNat (128 + i) &&& 0x7F).toNat = i := by decide
  have hlt := h.toNat_lt
  obtain ⟨hflag, hlow⟩ := hall (h.toNat - 128) (by omega)
  rw [Nat.add_sub_cancel' hn, UInt8.ofNat_toNat] at hflag hlow
  exact ⟨hflag, by omega⟩

theorem flag_of_lt {h : UInt8} (hn : h.toNat < 128) : ¬ (h &&& wellKnownFlag != 0) = true := by
  have hflag := wellKnownFlag_of_lt hn
  rw [UInt8.ofNat_toNat] at hflag
  rw [hflag]
  exact Bool.false_ne_true

theorem wellKnownType?_eq_some_iff {id : UInt8} {m : MediaType} :
    wellKnownType? id = some m ↔ (id, m) ∈ wellKnown := by
  have htable : ∀ k ∈ wellKnown, wellKnownType? k.1 = some k.2 := by decide
  constructor
  · intro h
    obtain ⟨l, r, hl, -⟩ := List.lookup_eq_some_iff.mp h
    rw [hl]
    exact List.mem_append_right l List.mem_cons_self
  · intro h
    exact htable (id, m) h

theorem wellKnownType?_eq_none_iff {id : UInt8} :
    wellKnownType? id = none ↔ ∀ k ∈ wellKnown, id ≠ k.1 := by
  unfold wellKnownType?
  rw [List.lookup_eq_none_iff]
  simp only [bne_iff_ne, ne_eq]

theorem need_of_lt (part : MetadataPart) {n : Nat} {b : Bytes} (h : b.length < n) :
    need part n b = .error (.truncated part) := by
  unfold need
  rw [Bytes.take?_of_lt h]

/-- A number needs no more bytes. -/
theorem readHeader_number {h : UInt8} (hn : 128 ≤ h.toNat) (b : Bytes) :
    readHeader h b = .ok (wellKnownType? (h &&& 0x7F), b) := by
  rw [readHeader, if_pos (number_of_le hn).1]

/-- A text needs as many bytes as its length says. -/
theorem readHeader_text {h : UInt8} (hn : h.toNat < 128) (b : Bytes) :
    readHeader h b = (need .mediaType (h.toNat + 1) b).bind fun r =>
      match Utf8.decode? r.1 with
      | none => .error (.invalidUtf8 "composite entry mime")
      | some text =>
          match MediaType.parse text with
          | .error e => .error (.invalidEntryType e)
          | .ok m => .ok (some m, r.2) := by
  rw [readHeader, if_neg (flag_of_lt hn)]
  rfl

theorem readHeader_of_headerOf {h : UInt8} {t : Bytes} {m : Option MediaType} (hm : HeaderOf h t m)
    (rest : Bytes) : readHeader h (t ++ rest) = .ok (m, rest) := by
  cases hm with
  | @known k hk hh =>
      have hn : 128 ≤ h.toNat := by omega
      have hid : h &&& 0x7F = k.1 := by
        apply UInt8.toNat_inj.mp
        have hlow := (number_of_le hn).2
        omega
      rw [List.nil_append, readHeader_number hn, hid, wellKnownType?_eq_some_iff.mpr hk]
  | unknown hn hk =>
      have hnone : wellKnownType? (h &&& 0x7F) = none := by
        rw [wellKnownType?_eq_none_iff]
        intro k hmem heq
        have hlow := (number_of_le hn).2
        rw [heq] at hlow
        exact hk k hmem hlow
      rw [List.nil_append, readHeader_number hn, hnone]
  | text hn hlen hparse =>
      rw [readHeader_text hn, need_append _ ((Utf8.length_encode _).trans hlen)]
      simp only [Except.bind, Utf8.decode?_encode, hparse]

theorem readHeader_of_broken {h : UInt8} {b : Bytes} {err : MetadataError}
    (hb : BrokenHeader h b err) : readHeader h b = .error err := by
  cases hb with
  | cut hn hlen =>
      rw [readHeader_text hn, need_of_lt _ hlen]
      rfl
  | notUtf8 hn hlen hs =>
      rename_i raw rest
      have hnone : Utf8.decode? raw = none := Utf8.decode?_eq_none_iff.mpr hs
      rw [readHeader_text hn, need_append _ hlen]
      simp only [Except.bind, hnone]
  | notType hn hlen hparse =>
      rw [readHeader_text hn, need_append _ ((Utf8.length_encode _).trans hlen)]
      simp only [Except.bind, Utf8.decode?_encode, hparse]

/-- Bytes start with a header, or with something that is wrong. -/
theorem headerOf_or_broken (h : UInt8) (b : Bytes) :
    (∃ t rest m, b = t ++ rest ∧ HeaderOf h t m) ∨ ∃ err, BrokenHeader h b err := by
  rcases Nat.lt_or_ge h.toNat 128 with hn | hn
  · rcases Nat.lt_or_ge b.length (h.toNat + 1) with hcut | hlen
    · exact Or.inr ⟨_, .cut hn hcut⟩
    · -- the text is complete: what is it?
      have hsplit := List.take_append_drop (h.toNat + 1) b
      have hraw : (b.take (h.toNat + 1)).length = h.toNat + 1 := by
        rw [List.length_take]
        omega
      cases hd : Utf8.decode? (b.take (h.toNat + 1)) with
      | none =>
          have hno := Utf8.decode?_eq_none_iff.mp hd
          have hbroken := BrokenHeader.notUtf8 (b := b.drop (h.toNat + 1)) hn hraw hno
          rw [hsplit] at hbroken
          exact Or.inr ⟨_, hbroken⟩
      | some s =>
          have hs := Utf8.decode?_eq_some_iff.mp hd
          rw [hs] at hsplit hraw
          rw [Utf8.length_encode] at hraw
          cases hp : MediaType.parse s with
          | error cause =>
              have hbroken := BrokenHeader.notType (b := b.drop (h.toNat + 1)) hn hraw hp
              rw [hsplit] at hbroken
              exact Or.inr ⟨_, hbroken⟩
          | ok m => exact Or.inl ⟨_, _, _, hsplit.symm, .text hn hraw hp⟩
  · refine Or.inl ⟨[], b, wellKnownType? (h &&& 0x7F), rfl, ?_⟩
    have hlow := (number_of_le hn).2
    cases hk : wellKnownType? (h &&& 0x7F) with
    | some m => exact .known (wellKnownType?_eq_some_iff.mp hk) hlow
    | none =>
        refine .unknown hn ?_
        intro k hmem heq
        apply wellKnownType?_eq_none_iff.mp hk k hmem
        apply UInt8.toNat_inj.mp
        omega

/-! ## Reading a frame -/

theorem readContent_of_short {b : Bytes} (h : b.length < 3) :
    readContent b = .error (.truncated .entryLength) := by
  unfold readContent
  rw [need_of_lt _ h]
  rfl

theorem readContent_of_cut {n : Nat} {b : Bytes} (hn : n ≤ 0xFFFFFF) (h : b.length < n) :
    readContent (Bytes.bigEndian 3 n ++ b) = .error (.truncated .entryContent) := by
  have hback : Bytes.ofBigEndian (Bytes.bigEndian 3 n) = n :=
    Bytes.ofBigEndian_bigEndian (by omega)
  unfold readContent
  rw [need_append _ (Bytes.length_bigEndian 3 n)]
  simp only [bind, Except.bind, hback]
  exact need_of_lt _ h

theorem decode_frameOf {f : Bytes} {es : List Entry} (hf : FrameOf f es) (rest : Bytes) :
    decode (f ++ rest) = (decode rest).map (es ++ ·) := by
  cases hf with
  | @mk h t content m hh hlen =>
      have hread : readEntry h (t ++ (Bytes.bigEndian 3 content.length ++ content ++ rest))
          = .ok (m.map fun m => ⟨m, content⟩, rest) := by
        unfold readEntry
        rw [readHeader_of_headerOf hh]
        simp only [bind, Except.bind, readContent_append hlen]
      rw [List.cons_append, List.append_assoc, decode_cons, hread]

theorem decode_broken {b : Bytes} {err : MetadataError} (hb : BrokenFrame b err) :
    decode b = .error err := by
  cases hb with
  | header hh =>
      rw [decode_cons, readEntry, readHeader_of_broken hh]
      rfl
  | length hh hlen =>
      rw [decode_cons, readEntry, readHeader_of_headerOf hh]
      simp only [bind, Except.bind, readContent_of_short hlen]
  | content hh hn hlen =>
      rw [decode_cons, readEntry, readHeader_of_headerOf hh]
      simp only [bind, Except.bind, readContent_of_cut hn hlen]

/-- Bytes start with a frame, or with something that is wrong. -/
theorem frameOf_or_broken (h : UInt8) (b : Bytes) :
    (∃ f rest es, h :: b = f ++ rest ∧ rest.length ≤ b.length ∧ FrameOf f es)
      ∨ ∃ err, BrokenFrame (h :: b) err := by
  rcases headerOf_or_broken h b with ⟨t, b', m, rfl, hh⟩ | ⟨err, hh⟩
  · rcases Nat.lt_or_ge b'.length 3 with hshort | hlen
    · exact Or.inr ⟨_, .length hh hshort⟩
    · -- three bytes are some number, and the number is the length of the content
      have hthree : (b'.take 3).length = 3 := by
        rw [List.length_take]
        omega
      have hback := Bytes.bigEndian_ofBigEndian (b'.take 3)
      have hlt := Bytes.ofBigEndian_lt (b'.take 3)
      rw [hthree] at hback hlt
      have hsplit := List.take_append_drop 3 b'
      rw [← hback] at hsplit
      generalize Bytes.ofBigEndian (b'.take 3) = n at hsplit hlt
      have hn : n ≤ 0xFFFFFF := by omega
      rcases Nat.lt_or_ge (b'.drop 3).length n with hcut | hfull
      · have hbroken := BrokenFrame.content hh hn hcut
        rw [hsplit] at hbroken
        exact Or.inr ⟨_, hbroken⟩
      · have hc : ((b'.drop 3).take n).length = n := by
          rw [List.length_take]
          omega
        have hfit : ((b'.drop 3).take n).length ≤ 0xFFFFFF := by omega
        have hframe := FrameOf.mk hh hfit
        rw [hc] at hframe
        refine Or.inl ⟨_, (b'.drop 3).drop n, _, ?_, ?_, hframe⟩
        · rw [List.cons_append, List.append_assoc, List.append_assoc, List.take_append_drop,
            hsplit]
        · rw [List.length_append, List.length_drop, List.length_drop]
          omega
  · exact Or.inr ⟨err, .header hh⟩

/-! ## Reading to the end -/

/-- Reading goes by single frames. -/
theorem readsFrames : ReadsItems FrameOf BrokenFrame decode where
  nil := by rw [decode]
  item := decode_frameOf
  broken := decode_broken
  starts := frameOf_or_broken

/--
**Reading accepts the grammar and nothing else.** For all bytes:

* they are read as entries exactly when they are frames that stand for these entries;
* else the error is what is wrong with the first frame that is broken;
* no read takes more bytes than are left;
* bytes that are read may stand in front of any others, which are read, or fail, as they would
  alone.
-/
theorem decode_accepts_frames (b : Bytes) :
    (∀ es, decode b = .ok es ↔ FramesOf b es)
      ∧ (∀ err, decode b = .error err ↔ FirstBroken FrameOf BrokenFrame b err)
      ∧ Cursor.frames b = some (decode b)
      ∧ ∀ es, decode b = .ok es → ∀ rest,
          (∀ es', decode rest = .ok es' → decode (b ++ rest) = .ok (es ++ es'))
            ∧ ∀ err, decode rest = .error err → decode (b ++ rest) = .error err := by
  obtain ⟨hok, herr⟩ := readsFrames.settled b
  refine ⟨hok, herr, Cursor.frames_eq b, ?_⟩
  intro es hes rest
  have happend := readsFrames.append ((hok es).mp hes) rest
  constructor
  · intro es' hrest
    rw [happend, hrest]
    rfl
  · intro err hrest
    rw [happend, hrest]
    rfl

theorem headerOf_routing : HeaderOf 0xFE [] (some .routing) :=
  HeaderOf.known (k := (0x7E, .routing)) (by decide) rfl

/-- A frame with an unknown number stands for nothing, alone and in front of a frame that is cut
off. -/
theorem decode_unknown_frame :
    decode [0xFD, 0, 0, 1, 7] = .ok []
      ∧ decode ([0xFD, 0, 0, 1, 7] ++ [0xFE, 0]) = .error (.truncated .entryLength) := by
  have hunknown : HeaderOf 0xFD [] none := HeaderOf.unknown (by decide) (by decide)
  have hlen : [(7 : UInt8)].length ≤ 0xFFFFFF := by decide
  have hframes := ItemsOf.cons (FrameOf.mk hunknown hlen) ItemsOf.nil
  have hcut : FirstBroken FrameOf BrokenFrame [0xFE, 0] (.truncated .entryLength) :=
    ⟨[], [], _, rfl, ItemsOf.nil, BrokenFrame.length headerOf_routing (by decide)⟩
  have hskip := ((decode_accepts_frames [0xFD, 0, 0, 1, 7]).1 []).mpr hframes
  have herr := ((decode_accepts_frames [0xFE, 0]).2.1 _).mpr hcut
  exact ⟨hskip, ((decode_accepts_frames _).2.2.2 _ hskip _).2 _ herr⟩

end SocketStrategies.Composite
