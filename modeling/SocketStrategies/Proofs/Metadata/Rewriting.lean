import SocketStrategies.Proofs.MediaType.Length
import SocketStrategies.Proofs.Metadata.Grammar

/-!
# Writing composite metadata that was read

What was read can mostly be written again. A content had its length in three bytes, and three
bytes can say it again. A media type had its text in a header, or a number there, and prints in no
more bytes than that text: it fits where the text fitted.

Only a type that was spelt with a lone `*` prints in two bytes more, and those may be too many.
Then writing stops at the first such entry.
-/

namespace SocketStrategies.Composite

/-! ## Texts in headers -/

/-- A frame that names its media type by a text. -/
def textFrame (s : String) (content : Bytes) : Bytes :=
  UInt8.ofNat (Utf8.length s - 1)
    :: (Utf8.encode s ++ (Bytes.bigEndian 3 content.length ++ content))

/-- A text that is read as a media type makes a frame. -/
theorem frameOf_textFrame {s : String} {m : MediaType} {content : Bytes} (hpos : 0 < Utf8.length s)
    (hlength : Utf8.length s ≤ 128) (hparse : MediaType.parse s = .ok m)
    (hcontent : content.length ≤ 0xFFFFFF) : FrameOf (textFrame s content) [⟨m, content⟩] := by
  have hbyte : (UInt8.ofNat (Utf8.length s - 1)).toNat = Utf8.length s - 1 := by
    rw [UInt8.toNat_ofNat']
    omega
  have hheader : HeaderOf (UInt8.ofNat (Utf8.length s - 1)) (Utf8.encode s) (some m) :=
    .text (by omega) (by omega) hparse
  exact .mk hheader hcontent

/-- A lone star with a parameter of letters is read from a header that it fits into. -/
theorem decode_starText {n : Nat} (hn : n ≤ 124) :
    decode (textFrame (MediaType.starText n) []) = .ok [⟨MediaType.starType n, []⟩] := by
  have hlength := MediaType.length_starText n
  have hempty : ([] : Bytes).length ≤ 0xFFFFFF := Nat.zero_le 0xFFFFFF
  have hframe := frameOf_textFrame (by omega) (by omega) (MediaType.parse_starText n) hempty
  have hframes := ItemsOf.cons hframe .nil
  rw [List.append_nil] at hframes
  exact ((readsFrames.settled _).1 _).mpr hframes

/-- Whether some bytes give an entry its media type by a text: a frame with the text and the
content of the entry stands there, behind other frames. -/
structure NamedBy (b : Bytes) (e : Entry) (s : String) : Prop where
  /-- A header says lengths up to 128. -/
  length : Utf8.length s ≤ 128
  parse : MediaType.parse s = .ok e.mediaType
  stands : ∃ front es back, b = front ++ (textFrame s e.content ++ back) ∧ FramesOf front es

theorem NamedBy.behind {f b : Bytes} {e : Entry} {s : String} {xs : List Entry} (h : NamedBy b e s)
    (hf : FrameOf f xs) : NamedBy (f ++ b) e s := by
  obtain ⟨front, es, back, hb, hfront⟩ := h.stands
  refine ⟨h.length, h.parse, f ++ front, xs ++ es, back, ?_, .cons hf hfront⟩
  rw [hb, List.append_assoc]

/-- An entry has a short content, and the type of some number or of some text. -/
theorem exists_source {b : Bytes} {es : List Entry} (h : FramesOf b es) {e : Entry} (he : e ∈ es) :
    e.content.length ≤ 0xFFFFFF ∧ ((∃ k ∈ wellKnown, e.mediaType = k.2) ∨ ∃ s, NamedBy b e s) := by
  induction h with
  | nil => cases he
  | @cons f b xs ys hf hrest ih =>
      rcases List.mem_append.mp he with he | he
      · cases hf with
        | @mk header t content m hheader hcontent =>
            obtain ⟨m', rfl⟩ : ∃ m', m = some m' := by
              cases m with
              | none => cases he
              | some m' => exact ⟨m', rfl⟩
            obtain rfl : e = ⟨m', content⟩ := List.mem_singleton.mp he
            refine ⟨hcontent, ?_⟩
            cases hheader with
            | known hk _ => exact .inl ⟨_, hk, rfl⟩
            | @text s _ hsmall hlength hparse =>
                right
                have hbyte : header = UInt8.ofNat (Utf8.length s - 1) := by
                  rw [hlength, Nat.add_sub_cancel, UInt8.ofNat_toNat]
                refine ⟨s, by omega, hparse, [], [], b, ?_, .nil⟩
                rw [textFrame, hbyte]
                rfl
      · obtain ⟨hcontent, hknown | ⟨s, hs⟩⟩ := ih he
        · exact ⟨hcontent, .inl hknown⟩
        · exact ⟨hcontent, .inr ⟨s, hs.behind hf⟩⟩

/-! ## Headers that are short enough -/

theorem length_render_wellKnown : ∀ k ∈ wellKnown, Utf8.length k.2.render ≤ 128 := by
  decide +kernel

/-- A type that has a number has a short text as well. -/
theorem shortHeader_iff {m : MediaType} : ShortHeader m ↔ Utf8.length m.render ≤ 128 := by
  constructor
  · rintro (⟨k, hk, hequivalent⟩ | hshort)
    · rw [← MediaType.length_render_of_equivalent hequivalent]
      exact length_render_wellKnown k hk
    · exact hshort
  · exact .inr

/-! ## Entries that were read -/

/-- The type of an entry that was read fits into a header again, unless its text has the lone
star. -/
theorem shorthand_of_long {b : Bytes} {es : List Entry} (h : FramesOf b es) {e : Entry}
    (he : e ∈ es) (hlong : 128 < Utf8.length e.mediaType.render) :
    ∃ s, NamedBy b e s ∧ MediaType.Shorthand s
      ∧ Utf8.length e.mediaType.render ≤ Utf8.length s + 2 := by
  obtain ⟨-, ⟨k, hk, htype⟩ | ⟨s, hs⟩⟩ := exists_source h he
  · have hshort := length_render_wellKnown k hk
    rw [← htype] at hshort
    omega
  · have hlength := hs.length
    rcases MediaType.length_render_le hs.parse with hfits | ⟨hstar, hbound⟩
    · omega
    · exact ⟨s, hs, hstar, hbound⟩

/-- **What was read can be written again, up to a type that the lone star has made too long.** For
all bytes that are read as entries, and every buffer factory:

* no content is too long;
* a type that prints in more than 128 bytes was given by a text with the lone star, and prints in
  at most two bytes more than that text, which has at most 128;
* if there is no such type, the entries are written;
* else the first such type is what is wrong.
-/
theorem encode_of_decoded {b : Bytes} {es : List Entry} (h : decode b = .ok es) (f : Factory) :
    (∀ e ∈ es, e.content.length ≤ 0xFFFFFF)
      ∧ (∀ e ∈ es, 128 < Utf8.length e.mediaType.render →
          ∃ s, NamedBy b e s ∧ MediaType.Shorthand s
            ∧ Utf8.length e.mediaType.render ≤ Utf8.length s + 2)
      ∧ ((∀ e ∈ es, Utf8.length e.mediaType.render ≤ 128) →
          (encode es f).1 = .ok (es.flatMap frame))
      ∧ ∀ front e back, es = front ++ e :: back →
          (∀ x ∈ front, Utf8.length x.mediaType.render ≤ 128) →
          128 < Utf8.length e.mediaType.render →
          (encode es f).1 = .error (.tooLong .mediaType (Utf8.length e.mediaType.render)) := by
  have hframes : FramesOf b es := ((readsFrames.settled b).1 es).mp h
  have hcontent : ∀ e ∈ es, e.content.length ≤ 0xFFFFFF := fun e he => (exists_source hframes he).1
  have hwritable : ∀ e ∈ es, Utf8.length e.mediaType.render ≤ 128 → Writable e :=
    fun e he hshort => ⟨shortHeader_iff.mpr hshort, hcontent e he⟩
  refine ⟨hcontent, fun e he => shorthand_of_long hframes he, ?_, ?_⟩
  · intro hshort
    exact encode_of_writable (fun e he => hwritable e he (hshort e he)) f
  · rintro front e back rfl hfront hlong
    have hoffence : Offence e (.tooLong .mediaType (Utf8.length e.mediaType.render)) :=
      .mediaType (mt shortHeader_iff.mp (Nat.not_le.mpr hlong))
    refine encode_of_firstOffence ⟨front, e, back, rfl, ?_, hoffence⟩ f
    intro x hx
    exact hwritable x (List.mem_append_left _ hx) (hfront x hx)

/-- With 122 letters the type is written again, and with 124 it is two bytes too long. -/
theorem encode_decoded_starText :
    decode (textFrame (MediaType.starText 122) []) = .ok [⟨MediaType.starType 122, []⟩]
      ∧ (encode [⟨MediaType.starType 122, []⟩] (.new .heap)).1
        = .ok (frame ⟨MediaType.starType 122, []⟩)
      ∧ decode (textFrame (MediaType.starText 124) []) = .ok [⟨MediaType.starType 124, []⟩]
      ∧ (encode [⟨MediaType.starType 124, []⟩] (.new .heap)).1
        = .error (.tooLong .mediaType 130) := by
  have hfits := decode_starText (n := 122) (by decide)
  have hlong := decode_starText (n := 124) (by decide)
  refine ⟨hfits, ?_, hlong, ?_⟩
  · have hwritten := (encode_of_decoded hfits (.new .heap)).2.2.1
    rw [List.flatMap_singleton] at hwritten
    apply hwritten
    intro e he
    rw [List.mem_singleton.mp he]
    exact Nat.le_of_eq (MediaType.length_render_starType 122)
  · have hrefused := (encode_of_decoded hlong (.new .heap)).2.2.2 [] _ [] rfl
    rw [MediaType.length_render_starType] at hrefused
    exact hrefused (fun x hx => absurd hx List.not_mem_nil) (by decide)

/-- Not everything that is read can be written again. -/
theorem not_all_decoded_encode :
    ¬ ∀ b es, decode b = .ok es → ∀ f, ∃ out, (encode es f).1 = .ok out := by
  intro hall
  obtain ⟨out, hwritten⟩ := hall _ _ (decode_starText (n := 124) (by decide)) (.new .heap)
  have hlong : ¬ ShortHeader (MediaType.starType 124) := by
    rw [shortHeader_iff, MediaType.length_render_starType]
    decide
  have hoffence : FirstOffence [⟨MediaType.starType 124, []⟩] _ :=
    ⟨[], _, [], rfl, fun x hx => absurd hx List.not_mem_nil, .mediaType hlong⟩
  rw [encode_of_firstOffence hoffence] at hwritten
  cases hwritten

end SocketStrategies.Composite
