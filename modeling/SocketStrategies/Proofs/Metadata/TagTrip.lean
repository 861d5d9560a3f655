import SocketStrategies.Proofs.Buffer.Emission
import SocketStrategies.Proofs.Metadata.Routing

/-!
# Writing and reading tags undo each other

The written form of tags is the one in the grammar of routing metadata, so a list of tags has a
written form exactly if each of them is short, and then only one. Both writing and reading go
by that grammar: bytes are what some tags are written as exactly if they are read as these
tags, to the last byte.

Bytes that are not written tags are written tags up to a length and what follows it. Reading fails
there, and what it leaves over is told from where it fails: all that follows the length if a tag
is cut off, and what follows the tag if it is no text.
-/

namespace SocketStrategies.Routing

/-- Whether one byte can say how long a tag is. -/
def Short (tag : String) : Prop := Utf8.length tag ≤ 255

/-- How long the first tag is that is not short. -/
def FirstTooLong (tags : List String) (err : MetadataError) : Prop :=
  ∃ front tag back, tags = front ++ tag :: back ∧ (∀ t ∈ front, Short t) ∧ ¬ Short tag
    ∧ err = .tooLong .routeTag (Utf8.length tag)

/-- How reading fails behind a length, and what it leaves over. -/
inductive FailsBehind (n : UInt8) (r : Bytes) : MetadataError → Bytes → Prop where
  /-- There is less than the length says. -/
  | cut : r.length < n.toNat → FailsBehind n r (.truncated .routeTag) r
  /-- What the length asks for is no text. -/
  | notUtf8 : n.toNat ≤ r.length → (∀ s, r.take n.toNat ≠ Utf8.encode s) →
      FailsBehind n r (.invalidUtf8 MediaType.routing.render) (r.drop n.toNat)

/-! ## Writing goes by the grammar -/

theorem tagOf_of_short {tag : String} (h : Short tag) :
    TagOf (UInt8.ofNat (Utf8.length tag) :: Utf8.encode tag) [tag] := by
  have hlen : Utf8.length tag = (UInt8.ofNat (Utf8.length tag)).toNat := by
    unfold Short at h
    rw [UInt8.toNat_ofNat']
    omega
  exact .mk hlen

theorem toExcept_write_cons {tag : String} (h : Short tag) (tags : List String) :
    (write (tag :: tags)).toExcept
      = (write tags).toExcept.map (UInt8.ofNat (Utf8.length tag) :: Utf8.encode tag ++ ·) := by
  have hn : ¬ BoundedPart.maxLength .routeTag < Utf8.length tag := Nat.not_lt.mpr h
  rw [write, if_neg hn, Output.toExcept_done_andThen]

theorem toExcept_write_of_not_short {tag : String} (h : ¬ Short tag) (tags : List String) :
    (write (tag :: tags)).toExcept = .error (.tooLong .routeTag (Utf8.length tag)) := by
  have hn : BoundedPart.maxLength .routeTag < Utf8.length tag := Nat.not_le.mp h
  rw [write, if_pos hn, Output.toExcept_stop]

theorem short_of_tagsOf {b : Bytes} {tags : List String} (h : TagsOf b tags) :
    ∀ t ∈ tags, Short t := by
  induction h with
  | nil => exact fun t ht => absurd ht List.not_mem_nil
  | cons htag _ ih =>
      cases htag with
      | @mk n tag hlen =>
          have hn := n.toNat_lt
          refine List.forall_mem_cons.mpr ⟨?_, ih⟩
          unfold Short
          omega

theorem exists_tagsOf {tags : List String} (h : ∀ t ∈ tags, Short t) : ∃ b, TagsOf b tags := by
  induction tags with
  | nil => exact ⟨[], .nil⟩
  | cons tag tags ih =>
      obtain ⟨htag, htags⟩ := List.forall_mem_cons.mp h
      obtain ⟨b, hb⟩ := ih htags
      exact ⟨_, .cons (tagOf_of_short htag) hb⟩

theorem tagsOf_or_firstTooLong (tags : List String) :
    (∃ b, TagsOf b tags) ∨ ∃ err, FirstTooLong tags err := by
  induction tags with
  | nil => exact Or.inl ⟨[], .nil⟩
  | cons tag tags ih =>
      by_cases htag : Short tag
      · rcases ih with ⟨b, hb⟩ | ⟨err, front, t, back, rfl, hf, ht⟩
        · exact Or.inl ⟨_, .cons (tagOf_of_short htag) hb⟩
        · exact Or.inr ⟨err, tag :: front, t, back, rfl, List.forall_mem_cons.mpr ⟨htag, hf⟩, ht⟩
      · exact Or.inr ⟨_, [], tag, tags, rfl, fun t ht => absurd ht List.not_mem_nil, htag, rfl⟩

theorem encode_of_tagsOf {b : Bytes} {tags : List String} (h : TagsOf b tags) (f : Factory) :
    (encode tags f).1 = .ok b := by
  rw [encode, Factory.emitFrozen_fst]
  induction h with
  | nil => rfl
  | @cons _ _ _ tags htag htags ih =>
      have hshort := short_of_tagsOf (.cons htag htags)
      cases htag with
      | @mk n tag hlen =>
          -- a length byte is settled by the length
          have hn : UInt8.ofNat (Utf8.length tag) = n := by rw [hlen, UInt8.ofNat_toNat]
          rw [List.singleton_append, toExcept_write_cons (hshort tag List.mem_cons_self), ih, hn]
          rfl

theorem encode_of_firstTooLong {tags : List String} {err : MetadataError}
    (h : FirstTooLong tags err) (f : Factory) : (encode tags f).1 = .error err := by
  obtain ⟨front, tag, back, rfl, hf, htag, rfl⟩ := h
  rw [encode, Factory.emitFrozen_fst]
  induction front with
  | nil => exact toExcept_write_of_not_short htag back
  | cons t front ih =>
      obtain ⟨ht, hf⟩ := List.forall_mem_cons.mp hf
      rw [List.cons_append, toExcept_write_cons ht, ih hf]
      rfl

theorem encode_settled (tags : List String) (f : Factory) :
    (∀ b, (encode tags f).1 = .ok b ↔ TagsOf b tags)
      ∧ ∀ err, (encode tags f).1 = .error err ↔ FirstTooLong tags err :=
  settled_of_total (fun _ h => encode_of_tagsOf h f) (fun _ h => encode_of_firstTooLong h f)
    (tagsOf_or_firstTooLong tags)

/-! ## What reading leaves over -/

theorem decode_append {b : Bytes} {tags : List String} (h : TagsOf b tags) (rest : Bytes) :
    decode (b ++ rest) = ((decode rest).1.map (tags ++ ·), (decode rest).2) := by
  induction h with
  | nil =>
      rw [List.nil_append]
      rcases decode rest with ⟨result, left⟩
      cases result with
      | ok tags => rfl
      | error err => rfl
  | cons htag _ ih =>
      rw [List.append_assoc, decode_tagOf htag, ih]
      cases (decode rest).1 with
      | ok tags => simp only [Except.map, List.append_assoc]
      | error err => rfl

theorem decode_of_tagsOf {b : Bytes} {tags : List String} (h : TagsOf b tags) :
    decode b = (.ok tags, []) := by
  have happend := decode_append h []
  rw [List.append_nil, decode] at happend
  rw [happend, Except.map, List.append_nil]

theorem decode_of_failsBehind {n : UInt8} {r left : Bytes} {err : MetadataError}
    (h : FailsBehind n r err left) : decode (n :: r) = (.error err, left) := by
  cases h with
  | cut hlen => exact decode_cut hlen
  | notUtf8 hlen hs =>
      have hraw : (r.take n.toNat).length = n.toNat := by
        rw [List.length_take, Nat.min_eq_left hlen]
      have hdecode := decode_notUtf8 (b := r.drop n.toNat) hraw hs
      rw [List.take_append_drop] at hdecode
      exact hdecode

theorem failsBehind_of_broken {b : Bytes} {err : MetadataError} (h : BrokenTag b err) :
    ∃ n r left, b = n :: r ∧ FailsBehind n r err left := by
  cases h with
  | cut hlen => exact ⟨_, _, _, rfl, .cut hlen⟩
  | @notUtf8 n raw rest hlen hs =>
      refine ⟨n, raw ++ rest, _, rfl, .notUtf8 ?_ ?_⟩
      · rw [List.length_append]
        omega
      · rw [← hlen, List.take_left]
        exact hs

theorem decode_eq_error_iff {b left : Bytes} {err : MetadataError} :
    decode b = (.error err, left)
      ↔ ∃ tags front n r, TagsOf front tags ∧ b = front ++ n :: r ∧ FailsBehind n r err left := by
  constructor
  · intro h
    obtain ⟨front, tags, back, rfl, hfront, hback⟩ :=
      ((readsTags.settled b).2 err).mp (congrArg Prod.fst h)
    obtain ⟨n, r, left', rfl, hfails⟩ := failsBehind_of_broken hback
    -- the leftover is that of the failure, and so it is the given one
    rw [decode_append hfront, decode_of_failsBehind hfails] at h
    obtain rfl : left' = left := congrArg Prod.snd h
    exact ⟨tags, front, n, r, hfront, rfl, hfails⟩
  · rintro ⟨tags, front, n, r, hfront, rfl, hfails⟩
    rw [decode_append hfront, decode_of_failsBehind hfails]
    rfl

/--
**Writing and reading tags undo each other.** From whatever factory:

* tags are written exactly if each of them has at most 255 bytes, and else the error says how long
  the first one is that has more;
* bytes are what tags are written as exactly if they are read as these tags, and then
  nothing is left over;
* where reading fails, written tags stand in front of a length, and either there is less behind it
  than it says, and all of that is left over, or it is followed by that many bytes which are no
  text, and what follows them is left over.
-/
theorem decode_inverts_encode (f : Factory) :
    (∀ tags, ((∃ b, (encode tags f).1 = .ok b) ↔ ∀ t ∈ tags, Utf8.length t ≤ 255)
        ∧ ∀ err, (encode tags f).1 = .error err ↔ FirstTooLong tags err)
      ∧ (∀ tags b, ((encode tags f).1 = .ok b ↔ (decode b).1 = .ok tags)
          ∧ ((decode b).1 = .ok tags ↔ decode b = (.ok tags, [])))
      ∧ ∀ b err left, decode b = (.error err, left)
          ↔ ∃ tags front n r, (encode tags f).1 = .ok front ∧ b = front ++ n :: r
              ∧ FailsBehind n r err left := by
  refine ⟨fun tags => ⟨?_, (encode_settled tags f).2⟩, fun tags b => ⟨?_, ?_⟩,
    fun b err left => ?_⟩
  · simp only [(encode_settled tags f).1]
    exact ⟨fun ⟨b, hb⟩ => short_of_tagsOf hb, exists_tagsOf⟩
  · rw [(encode_settled tags f).1, (readsTags.settled b).1]
  · refine ⟨fun h => ?_, fun h => congrArg Prod.fst h⟩
    exact decode_of_tagsOf (((readsTags.settled b).1 tags).mp h)
  · rw [decode_eq_error_iff]
    simp only [(encode_settled _ f).1]

/-- A tag is cut off behind the tag `a`. -/
example : decode [1, 97, 3, 98] = (.error (.truncated .routeTag), [98]) := by
  have hlen : Utf8.length "a" = (1 : UInt8).toNat := rfl
  have htags : TagsOf [1, 97] ["a"] := ItemsOf.cons (TagOf.mk hlen) ItemsOf.nil
  exact decode_eq_error_iff.mpr ⟨_, _, 3, [98], htags, rfl, .cut (by decide)⟩

end SocketStrategies.Routing
