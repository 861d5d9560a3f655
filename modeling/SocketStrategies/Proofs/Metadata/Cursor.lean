import SocketStrategies.Proofs.Metadata.Composite

/-!
# Reading without looking

Composite metadata comes from outside, so a reader has to look how many bytes are left before it
takes some. A **cursor** is a reader that need not look: its reads take bytes off the front of
what is left, and one that finds too few has overrun, after which there is no result at all.

`Cursor.frames` reads composite metadata with such reads, and looks only where it has to. It
agrees with `decode` on all bytes, so no read of it ever overruns.
-/

namespace SocketStrategies.Composite

/-- A reader over what is left. Without a result it has overrun. -/
abbrev Cursor := StateT Bytes (ExceptT MetadataError Option)

namespace Cursor

/-- Takes a byte. -/
def byte : Cursor UInt8 := fun b =>
  match b with
  | x :: rest => some (.ok (x, rest))
  | [] => none

/-- Takes a number of two bytes. -/
def short : Cursor Nat := fun b =>
  match b with
  | x :: y :: rest => some (.ok (x.toNat <<< 8 ||| y.toNat, rest))
  | _ => none

/-- Takes so many bytes. -/
def split (n : Nat) : Cursor Bytes := fun b =>
  if n ≤ b.length then some (.ok (b.take n, b.drop n)) else none

/-- Looks whether so many bytes are left for a part. -/
def look (part : MetadataPart) (n : Nat) : Cursor Unit := fun b =>
  if n ≤ b.length then some (.ok ((), b)) else some (.error (.truncated part))

/-- Takes the rest of a header, whose first byte is taken. -/
def type (header : UInt8) : Cursor (Option MediaType) :=
  if header &&& wellKnownFlag != 0 then return wellKnownType? (header &&& 0x7F)
  else do
    look .mediaType (header.toNat + 1)
    let raw ← split (header.toNat + 1)
    match Utf8.decode? raw with
    | none => throw (.invalidUtf8 "composite entry mime")
    | some text =>
        match MediaType.parse text with
        | .error cause => throw (.invalidEntryType cause)
        | .ok m => return some m

/-- Takes a length and the content. -/
def content : Cursor Bytes := do
  look .entryLength 3
  let high ← short
  let low ← byte
  let n := high <<< 8 ||| low.toNat
  look .entryContent n
  split n

/-- Takes a frame. -/
def frame : Cursor (Option Entry) := do
  let header ← byte
  let m ← type header
  let bytes ← content
  return m.map fun m => ⟨m, bytes⟩

/-! ## How cursors go on -/

section Bind

variable {α β : Type} {m : Cursor α} {b rest : Bytes} {a : α} {err : MetadataError}

theorem bind_of_ok (h : m b = some (.ok (a, rest))) (k : α → Cursor β) :
    (m >>= k) b = k a rest := by
  show (m b >>= ExceptT.bindCont _ : Option _) = _
  rw [h]
  rfl

theorem bind_of_error (h : m b = some (.error err)) (k : α → Cursor β) :
    (m >>= k) b = some (.error err) := by
  show (m b >>= ExceptT.bindCont _ : Option _) = _
  rw [h]
  rfl

end Bind

/-! ## Looking before taking -/

theorem need_eq (part : MetadataPart) (n : Nat) (b : Bytes) :
    need part n b
      = if n ≤ b.length then .ok (b.take n, b.drop n) else .error (.truncated part) := by
  unfold need
  rw [Bytes.take?_eq]
  by_cases hn : n ≤ b.length
  · rw [if_pos hn, if_pos hn]
  · rw [if_neg hn, if_neg hn]

/-- Who looks before he takes does not overrun. -/
theorem look_split (part : MetadataPart) (n : Nat) (b : Bytes) :
    (look part n >>= fun _ => split n) b = some (need part n b) := by
  rw [need_eq]
  by_cases hn : n ≤ b.length
  · have hlook : look part n b = some (.ok ((), b)) := if_pos hn
    rw [bind_of_ok hlook, if_pos hn]
    exact if_pos hn
  · have hlook : look part n b = some (.error (.truncated part)) := if_neg hn
    rw [bind_of_error hlook, if_neg hn]

theorem type_eq (header : UInt8) (b : Bytes) : type header b = some (readHeader header b) := by
  unfold type readHeader
  split
  · rfl
  · have hboth := look_split .mediaType (header.toNat + 1) b
    rw [← bind_assoc]
    cases hneed : need .mediaType (header.toNat + 1) b with
    | error err =>
        rw [hneed] at hboth
        exact bind_of_error hboth _
    | ok r =>
        rw [hneed] at hboth
        rw [bind_of_ok hboth]
        simp only [bind, Except.bind]
        cases Utf8.decode? r.1 with
        | none => rfl
        | some text =>
            dsimp only
            cases MediaType.parse text with
            | error cause => rfl
            | ok m => rfl

/-- A number of two bytes and one of one byte are a number of three. -/
theorem ofBigEndian_three (x y z : UInt8) :
    Bytes.ofBigEndian [x, y, z] = (x.toNat <<< 8 ||| y.toNat) <<< 8 ||| z.toNat := by
  have hy := y.toNat_lt
  have hz := z.toNat_lt
  rw [← Nat.shiftLeft_add_eq_or_of_lt hy, ← Nat.shiftLeft_add_eq_or_of_lt hz, Nat.shiftLeft_eq,
    Nat.shiftLeft_eq]
  simp only [Bytes.ofBigEndian, List.reverse_cons, List.reverse_nil, List.nil_append,
    List.cons_append, Bytes.ofLittleEndian]
  omega

theorem content_eq (b : Bytes) : content b = some (readContent b) := by
  unfold content readContent
  rw [need_eq]
  by_cases hn : 3 ≤ b.length
  · have hlook : look .entryLength 3 b = some (.ok ((), b)) := if_pos hn
    rw [bind_of_ok hlook, if_pos hn]
    -- three bytes are there, so neither the first two nor the third can be missing
    match b, hn with
    | x :: y :: z :: rest, _ =>
        have hhigh : short (x :: y :: z :: rest)
            = some (.ok (x.toNat <<< 8 ||| y.toNat, z :: rest)) := rfl
        have hlow : byte (z :: rest) = some (.ok (z, rest)) := rfl
        rw [bind_of_ok hhigh, bind_of_ok hlow, ← ofBigEndian_three]
        exact look_split .entryContent _ rest
  · have hlook : look .entryLength 3 b = some (.error (.truncated .entryLength)) := if_neg hn
    rw [bind_of_error hlook, if_neg hn]
    rfl

/-- A cursor takes a frame off bytes that start with one, or fails as reading fails. -/
theorem frame_eq (header : UInt8) (b : Bytes) :
    frame (header :: b) = some (readEntry header b) := by
  have hbyte : byte (header :: b) = some (.ok (header, b)) := rfl
  have htype := type_eq header b
  unfold frame readEntry
  rw [bind_of_ok hbyte]
  cases hm : readHeader header b with
  | error err =>
      rw [hm] at htype
      exact bind_of_error htype _
  | ok r =>
      have hcontent := content_eq r.2
      rw [hm] at htype
      rw [bind_of_ok htype]
      simp only [bind, Except.bind]
      cases hc : readContent r.2 with
      | error err =>
          rw [hc] at hcontent
          exact bind_of_error hcontent _
      | ok c =>
          rw [hc] at hcontent
          exact bind_of_ok hcontent _

/-! ## Whole metadata -/

/-- Takes frames as long as bytes are left. -/
def frames (b : Bytes) : Option (Except MetadataError (List Entry)) :=
  match b with
  | [] => some (.ok [])
  | header :: b =>
      match _h : frame (header :: b) with
      | none => none
      | some (.error err) => some (.error err)
      | some (.ok (e, rest)) => (frames rest).map (Except.map (e.toList ++ ·))
termination_by b.length
decreasing_by
  rw [frame_eq] at _h
  have h := length_le_of_readEntry (Option.some.inj _h)
  rw [List.length_cons]
  omega

/-- **No read overruns.** Taking frames off any bytes comes to what reading them comes to. -/
theorem frames_eq (b : Bytes) : frames b = some (decode b) := by
  induction hn : b.length using Nat.strongRecOn generalizing b with
  | ind n ih =>
      cases b with
      | nil => rw [frames, decode]
      | cons header b =>
          rw [frames, decode_cons]
          have hframe := frame_eq header b
          split
          · rename_i hnone
            rw [hframe] at hnone
            cases hnone
          · rename_i err herr
            rw [hframe] at herr
            rw [Option.some.inj herr]
          · rename_i e rest hok
            rw [hframe] at hok
            have hread := Option.some.inj hok
            have hlen := length_le_of_readEntry hread
            rw [List.length_cons] at hn
            rw [hread, ih rest.length (by omega) rest rfl]
            rfl

end Cursor

end SocketStrategies.Composite
