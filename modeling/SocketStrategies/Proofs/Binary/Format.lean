import Mathlib.Algebra.Group.Nat.Defs
import SocketStrategies.Binary.Format
import SocketStrategies.Proofs.Bytes

/-!
# Binary data is read as it was written

A reader takes a value off the front, so what it has to be told apart from is everything that may
follow. `Reads` says that some bytes are read as a value whatever comes after them. Lengths stand
in eight bytes, and so it asks that only of bytes whose number eight bytes can say; that bound
goes from the whole to its parts.
-/

namespace SocketStrategies.Binary

variable {α : Type}

/-- Whether bytes are read as a value, whatever follows them, unless there are too many to be
counted. -/
def Reads (read : Reader α) (bytes : Bytes) (v : α) : Prop :=
  bytes.length < UInt64.size → ∀ rest, read (bytes ++ rest) = some (v, rest)

/-! ## Numbers -/

theorem readNat_littleEndian {width n : Nat} (h : n < 256 ^ width) (rest : Bytes) :
    readNat width (Bytes.littleEndian width n ++ rest) = some (n, rest) := by
  have htake := Bytes.take?_append (Bytes.littleEndian width n) rest
  rw [Bytes.length_littleEndian] at htake
  rw [readNat, htake]
  simp only [Option.bind_eq_bind, Option.bind_some, Bytes.ofLittleEndian_littleEndian h]

theorem readNat_writeLength {n : Nat} (h : n < UInt64.size) (rest : Bytes) :
    readNat 8 (writeLength n ++ rest) = some (n, rest) := readNat_littleEndian h rest

theorem reads_uint32 (n : UInt32) : Reads readUInt32 (writeUInt32 n) n := by
  intro _ rest
  rw [readUInt32, writeUInt32, readNat_littleEndian n.toNat_lt, Option.map_some,
    UInt32.ofNat_toNat]

theorem reads_uint64 (n : UInt64) : Reads readUInt64 (writeUInt64 n) n := by
  intro _ rest
  rw [readUInt64, writeUInt64, readNat_littleEndian n.toNat_lt, Option.map_some,
    UInt64.ofNat_toNat]

theorem reads_int32 (n : Int32) : Reads readInt32 (writeInt32 n) n := by
  intro h rest
  rw [readInt32, writeInt32, reads_uint32 _ h, Option.map_some]
  rfl

theorem reads_int64 (n : Int64) : Reads readInt64 (writeInt64 n) n := by
  intro h rest
  rw [readInt64, writeInt64, reads_uint64 _ h, Option.map_some]
  rfl

/-! ## Strings and truth values -/

theorem reads_bytes (b : Bytes) : Reads readBytes (writeBytes b) b := by
  intro h rest
  rw [writeBytes, List.length_append] at h
  have hb : b.length < UInt64.size := by omega
  rw [readBytes, writeBytes, List.append_assoc, readNat_writeLength hb]
  exact Bytes.take?_append b rest

theorem reads_text (s : String) : Reads readText (writeText s) s := by
  intro h rest
  rw [readText, writeText, reads_bytes _ h]
  simp only [Option.bind_eq_bind, Option.bind_some, Utf8.decode?_encode]

theorem reads_bool (b : Bool) : Reads readBool (writeBool b) b := by
  intro _ rest
  cases b with
  | true => rfl
  | false => rfl

/-! ## Parts -/

theorem reads_optional {write : α → Bytes} {read : Reader α} (h : ∀ a, Reads read (write a) a)
    (v : Option α) : Reads (readOptional read) (writeOptional write v) v := by
  intro hlen rest
  cases v with
  | none => rfl
  | some a =>
      rw [writeOptional, List.length_cons] at hlen
      have ha := h a (Nat.lt_of_succ_lt hlen) rest
      rw [writeOptional, List.cons_append, readOptional, ha]
      rfl

theorem readMany_flatMap {write : α → Bytes} {read : Reader α} (h : ∀ a, Reads read (write a) a)
    (items : List α) (hlen : (items.flatMap write).length < UInt64.size) (rest : Bytes) :
    readMany read items.length (items.flatMap write ++ rest) = some (items, rest) := by
  induction items with
  | nil => rfl
  | cons a items ih =>
      rw [List.flatMap_cons, List.length_append] at hlen
      have ha := h a (by omega) (items.flatMap write ++ rest)
      have hitems := ih (by omega)
      rw [List.length_cons, readMany, List.flatMap_cons, List.append_assoc, ha]
      simp only [Option.bind_eq_bind, Option.bind_some, hitems]

theorem length_le_length_flatMap {write : α → Bytes} (h : ∀ a, 0 < (write a).length)
    (items : List α) :
    items.length ≤ (items.flatMap write).length := by
  induction items with
  | nil => exact Nat.le_refl 0
  | cons a items ih =>
      have ha := h a
      rw [List.length_cons, List.flatMap_cons, List.length_append]
      omega

/-- Items are read one after the other, as many as were written. -/
theorem reads_list {write : α → Bytes} {read : Reader α} (hpos : ∀ a, 0 < (write a).length)
    (h : ∀ a, Reads read (write a) a) (items : List α) :
    Reads (readList read) (writeList write items) items := by
  intro hlen rest
  rw [writeList, List.length_append] at hlen
  have hcount : items.length < UInt64.size := by
    have hle := length_le_length_flatMap hpos items
    omega
  rw [readList, writeList, List.append_assoc, readNat_writeLength hcount]
  exact readMany_flatMap h items (by omega) rest

theorem length_writeText_pos (s : String) : 0 < (writeText s).length := by
  rw [writeText, writeBytes, List.length_append, writeLength, Bytes.length_littleEndian]
  omega

end SocketStrategies.Binary
