import SocketStrategies.Proofs.Binary.Format

/-!
# No value stands in a part of another

A reader that has found its value does not look further: more input behind it changes neither the
value nor what was left over, except that more is left over. Readers are put together by handing
on what is left over, and so it is enough to say this of the readers they are put together from
(`Stable.bind`).

A stable reader that reads some bytes as a value, with nothing left over, reads no value in a part
of them: with the rest behind it, something would be left over (`Stable.eq_none_of_part`).
-/

namespace SocketStrategies.Binary

variable {α β : Type}

/-- Whether more input behind what is read is left over, and changes nothing else. -/
def Stable (read : Reader α) : Prop :=
  ∀ b v rest, read b = some (v, rest) → ∀ more, read (b ++ more) = some (v, rest ++ more)

/-! ## Putting readers together -/

namespace Stable

/-- A reader that takes nothing. -/
theorem pure (a : α) : Stable fun b => some (a, b) := by
  intro b v rest h more
  obtain ⟨rfl, rfl⟩ := Prod.mk.inj (Option.some.inj h)
  rfl

/-- A reader that finds nothing, whatever there is. -/
theorem fail : Stable (α := α) fun _ => none := by
  intro b v rest h
  cases h

/-- **One reader after another.** -/
theorem bind {read : Reader α} {next : α → Reader β} (h : Stable read)
    (hnext : ∀ a, Stable (next a)) :
    Stable fun b => (read b).bind fun r => next r.1 r.2 := by
  intro b v rest hb more
  obtain ⟨⟨a, between⟩, hread, hrest⟩ := Option.bind_eq_some_iff.mp hb
  dsimp only
  rw [h _ _ _ hread more]
  exact hnext a _ _ _ hrest more

theorem map {read : Reader α} (h : Stable read) (f : α → β) :
    Stable fun b => (read b).map fun r => (f r.1, r.2) := by
  intro b v rest hb more
  obtain ⟨⟨a, between⟩, hread, hrest⟩ := Option.map_eq_some_iff.mp hb
  obtain ⟨rfl, rfl⟩ := Prod.mk.inj hrest
  dsimp only
  rw [h _ _ _ hread more]
  rfl

/-- A value that is made of what was read, if one can be made. -/
theorem ofOption (made : Option α) : Stable fun b => made.bind fun a => some (a, b) := by
  cases made with
  | none => exact fail
  | some a => exact pure a

/-- **A part of what is read as a value is read as none.** -/
theorem eq_none_of_part {read : Reader α} (h : Stable read) {bytes : Bytes} {v : α}
    (hreads : Reads read bytes v) (hlen : bytes.length < UInt64.size) {part missing : Bytes}
    (hbytes : part ++ missing = bytes) (hmissing : missing ≠ []) : read part = none := by
  cases hpart : read part with
  | none => rfl
  | some r =>
      obtain ⟨w, rest⟩ := r
      have hwhole := hreads hlen []
      rw [List.append_nil, ← hbytes, h _ _ _ hpart missing] at hwhole
      have hrest := (Prod.mk.inj (Option.some.inj hwhole)).2
      exact absurd (List.append_eq_nil_iff.mp hrest).2 hmissing

end Stable

/-! ## Numbers, strings and truth values -/

theorem stable_take (n : Nat) : Stable (Bytes.take? n) := by
  intro b v rest h more
  obtain ⟨rfl, hlen⟩ := Bytes.eq_append_of_take? h
  rw [List.append_assoc, ← hlen]
  exact Bytes.take?_append v (rest ++ more)

theorem stable_nat (width : Nat) : Stable (readNat width) :=
  (stable_take width).bind fun raw => .pure (Bytes.ofLittleEndian raw)

theorem stable_uint32 : Stable readUInt32 := (stable_nat 4).map UInt32.ofNat

theorem stable_uint64 : Stable readUInt64 := (stable_nat 8).map UInt64.ofNat

theorem stable_int32 : Stable readInt32 := stable_uint32.map UInt32.toInt32

theorem stable_int64 : Stable readInt64 := stable_uint64.map UInt64.toInt64

theorem stable_bytes : Stable readBytes := (stable_nat 8).bind stable_take

theorem stable_text : Stable readText := stable_bytes.bind fun raw => .ofOption (Utf8.decode? raw)

/-- A truth value is a byte, and bytes other than zero and one are none. -/
theorem stable_bool : Stable readBool := by
  intro b v rest h more
  unfold readBool at h
  split at h
  · obtain ⟨rfl, rfl⟩ := Prod.mk.inj (Option.some.inj h)
    rfl
  · obtain ⟨rfl, rfl⟩ := Prod.mk.inj (Option.some.inj h)
    rfl
  · cases h

/-! ## Parts -/

section

variable {read : Reader α} (h : Stable read)
include h

theorem stable_optional : Stable (readOptional read) := by
  intro b v rest hb more
  unfold readOptional at hb
  split at hb
  · obtain ⟨rfl, rfl⟩ := Prod.mk.inj (Option.some.inj hb)
    rfl
  · exact h.bind (fun a => .pure (some a)) _ _ _ hb more
  · cases hb

theorem stable_many (count : Nat) : Stable (readMany read count) := by
  induction count with
  | zero => exact .pure []
  | succ count ih => exact h.bind fun a => ih.bind fun items => .pure (a :: items)

theorem stable_list : Stable (readList read) := (stable_nat 8).bind (stable_many h)

end

end SocketStrategies.Binary
