import SocketStrategies.Metadata.Routing
import SocketStrategies.Proofs.Bytes
import SocketStrategies.Proofs.Items

/-!
# The grammar of routing metadata

Routing metadata is a list of tags, each after its length in one byte. A tag is broken where
it is cut off, or where it is complete and no text. Reading finds the tags, or what is wrong
with the broken one.
-/

namespace SocketStrategies.Routing

/-- The length of a tag and its text. -/
inductive TagOf : Bytes → List String → Prop where
  | mk {n : UInt8} {tag : String} : Utf8.length tag = n.toNat → TagOf (n :: Utf8.encode tag) [tag]

/-- Bytes and the tags that they stand for. -/
abbrev TagsOf : Bytes → List String → Prop := ItemsOf TagOf

/-- What is wrong with bytes that start with no tag. -/
inductive BrokenTag : Bytes → MetadataError → Prop where
  | cut {n : UInt8} {b : Bytes} : b.length < n.toNat → BrokenTag (n :: b) (.truncated .routeTag)
  /-- The tag is complete and is no text. -/
  | notUtf8 {n : UInt8} {raw b : Bytes} :
      raw.length = n.toNat → (∀ s, raw ≠ Utf8.encode s) →
      BrokenTag (n :: (raw ++ b)) (.invalidUtf8 MediaType.routing.render)

/-! ## Reading a tag -/

theorem decode_cons (n : UInt8) (b : Bytes) :
    decode (n :: b)
      = match Bytes.take? n.toNat b with
        | none => (.error (.truncated .routeTag), b)
        | some (raw, rest) =>
            match Utf8.decode? raw with
            | none => (.error (.invalidUtf8 MediaType.routing.render), rest)
            | some tag => ((decode rest).1.map (tag :: ·), (decode rest).2) := by
  rw [decode]
  split
  · rename_i h
    rw [h]
  · rename_i raw rest h
    cases hd : Utf8.decode? raw with
    | none => simp only [h, hd]
    | some tag => simp only [h, hd]

/-- A tag is read, and then what follows it, which decides what is left over. -/
theorem decode_tagOf {f : Bytes} {tags : List String} (h : TagOf f tags) (rest : Bytes) :
    decode (f ++ rest) = ((decode rest).1.map (tags ++ ·), (decode rest).2) := by
  cases h with
  | mk hlen =>
      rw [List.cons_append, decode_cons, ← hlen, ← Utf8.length_encode, Bytes.take?_append]
      simp only [Utf8.decode?_encode]
      rfl

theorem decode_cut {n : UInt8} {b : Bytes} (h : b.length < n.toNat) :
    decode (n :: b) = (.error (.truncated .routeTag), b) := by
  rw [decode_cons, Bytes.take?_of_lt h]

theorem decode_notUtf8 {n : UInt8} {raw b : Bytes} (hlen : raw.length = n.toNat)
    (hs : ∀ s, raw ≠ Utf8.encode s) :
    decode (n :: (raw ++ b)) = (.error (.invalidUtf8 MediaType.routing.render), b) := by
  have hnone : Utf8.decode? raw = none := Utf8.decode?_eq_none_iff.mpr hs
  rw [decode_cons, ← hlen, Bytes.take?_append]
  simp only [hnone]

theorem decode_broken {b : Bytes} {err : MetadataError} (h : BrokenTag b err) :
    (decode b).1 = .error err := by
  cases h with
  | cut hlen => rw [decode_cut hlen]
  | notUtf8 hlen hs => rw [decode_notUtf8 hlen hs]

/-- Bytes start with a tag, or with something that is wrong. -/
theorem tagOf_or_broken (n : UInt8) (b : Bytes) :
    (∃ f rest tags, n :: b = f ++ rest ∧ rest.length ≤ b.length ∧ TagOf f tags)
      ∨ ∃ err, BrokenTag (n :: b) err := by
  rcases Nat.lt_or_ge b.length n.toNat with hcut | hlen
  · exact Or.inr ⟨_, .cut hcut⟩
  · have hsplit := List.take_append_drop n.toNat b
    have hraw : (b.take n.toNat).length = n.toNat := by
      rw [List.length_take]
      omega
    cases hd : Utf8.decode? (b.take n.toNat) with
    | none =>
        have hbroken :=
          BrokenTag.notUtf8 (b := b.drop n.toNat) hraw (Utf8.decode?_eq_none_iff.mp hd)
        rw [hsplit] at hbroken
        exact Or.inr ⟨_, hbroken⟩
    | some tag =>
        have htag := Utf8.decode?_eq_some_iff.mp hd
        rw [htag] at hsplit hraw
        refine Or.inl ⟨n :: Utf8.encode tag, b.drop n.toNat, [tag], ?_, ?_, .mk hraw⟩
        · rw [List.cons_append, hsplit]
        · rw [List.length_drop]
          exact Nat.sub_le _ _

/-- Reading goes by single tags, so it finds the tags, or what is wrong with the first broken
one. -/
theorem readsTags : ReadsItems TagOf BrokenTag fun b => (decode b).1 where
  nil := by rw [decode]
  item h rest := by rw [decode_tagOf h]
  broken := decode_broken
  starts := tagOf_or_broken

end SocketStrategies.Routing
