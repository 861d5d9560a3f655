import SocketStrategies.Proofs.Metadata.Grammar

/-!
# Composite metadata that is cut off

Cutting the written form of some entries leaves the frames of the first of them and, unless
the cut falls where a frame ends, a part of the next frame. A part of a frame is never a
frame, nor several: its header says how much is to come, and that is not there. So reading
finds exactly the entries that are complete, or fails because something is cut off, and it
never fails in another way.
-/

namespace SocketStrategies.Composite

/-- Where the first `j` entries end in the written form of a list. -/
def endOf (es : List Entry) (j : Nat) : Nat := (write (es.take j)).bytes.length

/-! ## Where frames end -/

theorem bytes_write_of_writable {es : List Entry} (h : ∀ e ∈ es, Writable e) :
    (write es).bytes = es.flatMap frame := by
  have hwrite := toExcept_write_of_writable h
  unfold Output.toExcept at hwrite
  split at hwrite
  · exact Except.ok.inj hwrite
  · cases hwrite

theorem endOf_eq {es : List Entry} (h : ∀ e ∈ es, Writable e) (j : Nat) :
    endOf es j = ((es.take j).flatMap frame).length := by
  rw [endOf, bytes_write_of_writable fun e he => h e (List.mem_of_mem_take he)]

theorem take_endOf {es : List Entry} (h : ∀ e ∈ es, Writable e) (j : Nat) :
    (es.flatMap frame).take (endOf es j) = (es.take j).flatMap frame := by
  have hsplit : es.flatMap frame = (es.take j).flatMap frame ++ (es.drop j).flatMap frame := by
    rw [← List.flatMap_append, List.take_append_drop]
  rw [endOf_eq h, hsplit, List.take_left]

/-- A cut falls on the end of some entries, or inside the frame of the next one. -/
theorem end_or_inside {es : List Entry} {k : Nat} (hk : k ≤ (es.flatMap frame).length) :
    (∃ j ≤ es.length, k = ((es.take j).flatMap frame).length)
      ∨ ∃ front e back i, es = front ++ e :: back ∧ k = (front.flatMap frame).length + i
        ∧ 0 < i ∧ i < (frame e).length := by
  induction es generalizing k with
  | nil => exact Or.inl ⟨0, Nat.le_refl 0, Nat.le_zero.mp hk⟩
  | cons e es ih =>
      rw [List.flatMap_cons, List.length_append] at hk
      rcases Nat.lt_or_ge k (frame e).length with hlt | hge
      · rcases Nat.eq_zero_or_pos k with rfl | hpos
        · exact Or.inl ⟨0, Nat.zero_le _, rfl⟩
        · exact Or.inr ⟨[], e, es, k, rfl, (Nat.zero_add k).symm, hpos, hlt⟩
      · -- the frame is complete, and the cut is as far on in the frames after it
        obtain ⟨k', rfl⟩ := Nat.exists_eq_add_of_le hge
        rcases ih (Nat.le_of_add_le_add_left hk) with
          ⟨j, hj, rfl⟩ | ⟨front, x, back, i, rfl, rfl, hi⟩
        · refine Or.inl ⟨j + 1, Nat.succ_le_succ hj, ?_⟩
          rw [List.take_succ_cons, List.flatMap_cons, List.length_append]
        · refine Or.inr ⟨e :: front, x, back, i, rfl, ?_, hi⟩
          rw [List.flatMap_cons, List.length_append, Nat.add_assoc]

/-! ## A part of a frame -/

/-- Whatever is read as a header is one. -/
theorem headerOf_of_readHeader {h : UInt8} {t rest : Bytes} {m : Option MediaType}
    (hread : readHeader h (t ++ rest) = .ok (m, rest)) : HeaderOf h t m := by
  rcases headerOf_or_broken h (t ++ rest) with ⟨t', rest', m', hsplit, hh⟩ | ⟨err, hbroken⟩
  · rw [hsplit, readHeader_of_headerOf hh] at hread
    obtain ⟨rfl, rfl⟩ := Prod.mk.inj (Except.ok.inj hread)
    rw [List.append_cancel_right hsplit]
    exact hh
  · rw [readHeader_of_broken hbroken] at hread
    cases hread

theorem frameOf_frame {e : Entry} (hw : Writable e) {m : MediaType}
    (hm : reread e.mediaType = .ok m) :
    FrameOf (frame e) [⟨m, e.content⟩] := by
  have hread := readHeader_frame hw.header []
  rw [hm] at hread
  exact FrameOf.mk (headerOf_of_readHeader hread) hw.content

/-- A header that is followed by text says how long it is. -/
theorem text_of_headerOf {h : UInt8} {t : Bytes} {m : Option MediaType} (hh : HeaderOf h t m)
    (ht : t ≠ []) :
    h.toNat < 128 ∧ t.length = h.toNat + 1 := by
  cases hh with
  | known => exact absurd rfl ht
  | unknown => exact absurd rfl ht
  | text hn hlen _ => exact ⟨hn, (Utf8.length_encode _).trans hlen⟩

/-- A part of a frame is cut off, in its text, in its length or in its content. -/
theorem broken_of_cut {f : Bytes} {es : List Entry} (hf : FrameOf f es) {i : Nat} (hpos : 0 < i)
    (hlt : i < f.length) : ∃ part, BrokenFrame (f.take i) (.truncated part) := by
  cases hf with
  | @mk h t content m hh hlen =>
      obtain ⟨i, rfl⟩ := Nat.exists_eq_add_of_lt hpos
      rw [Nat.zero_add] at hlt ⊢
      simp only [List.length_cons, List.length_append, Bytes.length_bigEndian] at hlt
      rw [List.take_succ_cons]
      rcases Nat.lt_or_ge i t.length with htext | htext
      · have ht : t ≠ [] := List.ne_nil_of_length_pos (by omega)
        obtain ⟨hn, hlength⟩ := text_of_headerOf hh ht
        rw [List.take_append_of_le_length (Nat.le_of_lt htext)]
        refine ⟨_, .header (.cut hn ?_)⟩
        rw [List.length_take]
        omega
      · obtain ⟨i, rfl⟩ := Nat.exists_eq_add_of_le htext
        rw [List.take_length_add_append]
        rcases Nat.lt_or_ge i 3 with hlength | hlength
        · refine ⟨_, .length hh ?_⟩
          rw [List.length_take]
          omega
        · obtain ⟨i, rfl⟩ := Nat.exists_eq_add_of_le hlength
          have hcut : (Bytes.bigEndian 3 content.length ++ content).take
              ((Bytes.bigEndian 3 content.length).length + i) = _ := List.take_length_add_append i
          rw [Bytes.length_bigEndian] at hcut
          rw [hcut]
          refine ⟨_, .content hh hlen ?_⟩
          rw [List.length_take]
          omega

/-! ## Cutting a list of frames -/

theorem framesOf_of_rereadAs {es es' : List Entry} (hw : ∀ e ∈ es, Writable e)
    (h : List.Forall₂ Entry.RereadAs es es') : FramesOf (es.flatMap frame) es' := by
  induction h with
  | nil => exact .nil
  | @cons e e' _ _ he _ ih =>
      obtain ⟨hwe, hws⟩ := List.forall_mem_cons.mp hw
      obtain ⟨hm, hc⟩ := he
      have hframe := frameOf_frame hwe hm
      rw [← hc] at hframe
      exact .cons hframe (ih hws)

/-- Inside the frame of an entry that is read back, reading meets the end of the bytes. -/
theorem decode_cut {front back : List Entry} {e : Entry} {i : Nat}
    (hw : ∀ x ∈ front ++ e :: back, Writable x)
    (hr : ∀ x ∈ front ++ e :: back, ∃ m, reread x.mediaType = .ok m) (hpos : 0 < i)
    (hlt : i < (frame e).length) :
    ∃ part, decode (((front ++ e :: back).flatMap frame).take ((front.flatMap frame).length + i))
      = .error (.truncated part) := by
  have he : e ∈ front ++ e :: back := List.mem_append_right front List.mem_cons_self
  obtain ⟨m, hm⟩ := hr e he
  obtain ⟨part, hbroken⟩ := broken_of_cut (frameOf_frame (hw e he) hm) hpos hlt
  refine ⟨part, readsFrames.of_firstBroken ?_⟩
  -- the frames in front stand for what their entries are read as
  have hfront : ∃ front', List.Forall₂ Entry.RereadAs front front' := by
    rcases rereadAs_or_firstUnreadable front with h | ⟨cause, a, x, b, rfl, -, hx⟩
    · exact h
    · obtain ⟨m, hm⟩ := hr x (List.mem_append_left _ (List.mem_append_right a List.mem_cons_self))
      rw [hm] at hx
      cases hx
  obtain ⟨front', hfront⟩ := hfront
  refine ⟨_, front', _, ?_,
    framesOf_of_rereadAs (fun x hx => hw x (List.mem_append_left _ hx)) hfront, hbroken⟩
  rw [List.flatMap_append, List.take_length_add_append, List.flatMap_cons,
    List.take_append_of_le_length (Nat.le_of_lt hlt)]

/--
**Metadata that is cut off is never taken for complete metadata.** Entries whose types survive
being printed are written and cut off somewhere. Where the cut falls on the end of an entry,
the entries up to it are read, and nothing else; anywhere else reading fails because the bytes
end inside a part.
-/
theorem decode_take_of_encode {es : List Entry} {f : Factory} {b : Bytes} {k : Nat}
    (henc : (encode es f).1 = .ok b)
    (hprint : ∀ e ∈ es, ¬ WellKnown e.mediaType →
      ∃ m, MediaType.parse e.mediaType.render = .ok m ∧ m.equivalent e.mediaType = true)
    (hk : k < b.length) :
    (∀ j ≤ es.length, k = endOf es j →
        ∃ es', decode (b.take k) = .ok es'
          ∧ List.Forall₂ (fun e e' => e'.equivalent e = true) (es.take j) es')
      ∧ ((∀ j ≤ es.length, k ≠ endOf es j) →
        ∃ part, decode (b.take k) = .error (.truncated part)) := by
  -- what was written is the frames of the entries
  have hw : ∀ e ∈ es, Writable e := by
    rcases writable_or_firstOffence es with hw | ⟨err, ho⟩
    · exact hw
    · rw [encode_of_firstOffence ho] at henc
      cases henc
  rw [encode_of_writable hw] at henc
  obtain rfl := Except.ok.inj henc
  have hequiv : ∀ e ∈ es, ∃ m, reread e.mediaType = .ok m ∧ m.equivalent e.mediaType = true :=
    fun e he => reread_equivalent_iff.mpr (hprint e he)
  constructor
  · rintro j - rfl
    have htake : ∀ e ∈ es.take j, e ∈ es := fun e he => List.mem_of_mem_take he
    obtain ⟨es', hread, hes'⟩ := rereadAs_equivalent_iff.mpr fun e he => hequiv e (htake e he)
    refine ⟨es', ?_, hes'⟩
    rw [take_endOf hw]
    exact decode_frames_of_rereadAs (fun e he => hw e (htake e he)) hread
  · intro hinside
    rcases end_or_inside (Nat.le_of_lt hk) with
      ⟨j, hj, hend⟩ | ⟨front, e, back, i, rfl, rfl, hpos, hlt⟩
    · exact absurd (hend.trans (endOf_eq hw j).symm) (hinside j hj)
    · exact decode_cut hw (fun x hx => (hequiv x hx).imp fun m hm => hm.1) hpos hlt

/-- Two entries, of a type with a number and of one without. -/
def numberedThenNamed : List Entry := [⟨.cbor, [7]⟩, ⟨.verbatim "a" "b", [8]⟩]

/-- Five bytes are the first entry, and seven end inside the text of the second type. -/
theorem decode_take_numberedThenNamed :
    (∃ es', decode [0x81, 0, 0, 1, 7] = .ok es'
        ∧ List.Forall₂ (fun e e' => e'.equivalent e = true) [⟨.cbor, [7]⟩] es')
      ∧ ∃ part, decode [0x81, 0, 0, 1, 7, 2, 97] = .error (.truncated part) := by
  have henc : (encode numberedThenNamed (.new .standard)).1
      = .ok [0x81, 0, 0, 1, 7, 2, 97, 47, 98, 0, 0, 1, 8] := by decide +kernel
  have hprint : ∀ e ∈ numberedThenNamed, ¬ WellKnown e.mediaType →
      ∃ m, MediaType.parse e.mediaType.render = .ok m ∧ m.equivalent e.mediaType = true := by
    refine List.forall_mem_cons.mpr ⟨fun h => absurd ?_ h,
      List.forall_mem_singleton.mpr fun _ => ?_⟩
    · exact ⟨(0x01, .cbor), by decide, MediaType.equivalent_refl _⟩
    · exact ⟨.make "a" "b", rfl, by decide +kernel⟩
  have hone := (decode_take_of_encode (k := 5) henc hprint (by decide)).1 1 (by decide)
    (by decide +kernel)
  have hcut := (decode_take_of_encode (k := 7) henc hprint (by decide)).2 (by decide +kernel)
  exact ⟨hone, hcut⟩

end SocketStrategies.Composite
