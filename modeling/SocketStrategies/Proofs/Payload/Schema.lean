import SocketStrategies.Payload.Type
import SocketStrategies.Proofs.Buffer.Emission
import SocketStrategies.Proofs.Dict
import SocketStrategies.Proofs.Payload.Record

/-!
# Values come back from what is written of them

For every schema but JSON values the reader of a wire format gives back whatever was written in
it. A table with rows has no JSON form, and then there is nothing to read. Binary data needs
lengths to fit into eight bytes, which they do for all that a memory can hold.
-/

namespace SocketStrategies

open Json (Tree)

namespace Schema

/-- Whether what is written of a value in a wire format is read as this value. -/
def Restores (s : Schema) (w : WireFormat) (v : s.Carrier) : Prop :=
  ∀ b, (s.write w v).toExcept = .ok b → s.read? w b = some v

/-! ## JSON -/

/-- The integer that a value is written as, if it is written as one. -/
def number? : (s : Schema) → s.Carrier → Option Int
  | .word, v => some v.toNat
  | .integer, v => some v.toInt
  | .document, .integer i => some i.value
  | _, _ => none

/-- A tree that a value is written as and read from. -/
structure Denotes (s : Schema) (v : s.Carrier) (t : Tree) : Prop where
  plain : t.Plain
  write : s.writeJson v = .done t.write
  read : s.ofTree? t = some v
  number : ∀ i, t = .number (.ofInt i) → s.number? v = some i

theorem denotes_number {s : Schema} {v : s.Carrier} {i : Int} (hi : s.number? v = some i)
    (hwrite : s.writeJson v = .done (Json.Numeral.ofInt i).write)
    (hread : s.ofTree? (.number (.ofInt i)) = some v) : s.Denotes v (.number (.ofInt i)) := by
  refine ⟨.number i, hwrite, hread, fun j hj => ?_⟩
  rw [hi, Json.Numeral.ofInt_injective (Tree.number.inj hj)]

theorem exists_denotes {s : Schema} (hs : s ≠ .document) (htable : s ≠ .table) (v : s.Carrier) :
    ∃ t, s.Denotes v t := by
  cases s with
  | text => exact ⟨.text (some v), .text v, rfl, rfl, fun _ hi => by cases hi⟩
  | word => exact ⟨_, denotes_number rfl rfl (Tree.integer?_uint32 v)⟩
  | integer => exact ⟨_, denotes_number rfl rfl (Tree.integer?_int64 v)⟩
  | quote =>
      exact ⟨v.toTree, Quote.plain_toTree v, rfl, Quote.ofTree?_toTree v, fun _ hi => by cases hi⟩
  | event =>
      exact ⟨v.toTree, Event.plain_toTree v, rfl, Event.ofTree?_toTree v, fun _ hi => by cases hi⟩
  | document => exact absurd rfl hs
  | table => exact absurd rfl htable

theorem Denotes.restores {s : Schema} {v : s.Carrier} {t : Tree} (h : s.Denotes v t) :
    s.Restores .json v := by
  intro b hb
  rw [Schema.write, h.write, Output.toExcept_done] at hb
  rw [← Except.ok.inj hb, read?, readJson, Json.read?_write h.plain]
  exact h.read

/-- Without rows a table is an object without fields, and with rows it is not written. -/
theorem restores_table (v : Dict Bytes UInt32) : Restores .table .json v := by
  intro b hb
  rw [write, writeJson] at hb
  split at hb
  · rename_i hempty
    have hv : v = .empty := Dict.ext (List.isEmpty_iff.mp hempty)
    rw [← Except.ok.inj hb, hv]
    rfl
  · cases hb

theorem restores_json {s : Schema} (hs : s ≠ .document) (v : s.Carrier) : s.Restores .json v := by
  by_cases htable : s = .table
  · subst htable
    exact restores_table v
  · obtain ⟨t, ht⟩ := exists_denotes hs htable v
    exact ht.restores

/-! ## Compact binary data -/

theorem reads_row (e : Bytes × UInt32) :
    Binary.Reads readRow (Binary.writeBytes e.1 ++ Binary.writeUInt32 e.2) e := by
  intro h rest
  rw [List.length_append] at h
  have hkey := Binary.reads_bytes e.1 (by omega)
  have hvalue := Binary.reads_uint32 e.2 (by omega)
  simp only [readRow, List.append_assoc, Option.bind_eq_bind, Option.bind_some, hkey, hvalue]

theorem reads_table (v : Dict Bytes UInt32) :
    Binary.Reads (readBinary .table) (writeBinary .table v) v := by
  intro h rest
  have hpos : ∀ e : Bytes × UInt32,
      0 < (Binary.writeBytes e.1 ++ Binary.writeUInt32 e.2).length := by
    intro e
    rw [List.length_append, Binary.writeUInt32, Bytes.length_littleEndian]
    omega
  have hrows := Binary.reads_list hpos reads_row v.toList h rest
  have hdict : Dict.ofList v.toList = v := Dict.ofList_entries v
  rw [readBinary, writeBinary]
  dsimp only
  rw [hrows, Option.map_some, hdict]

theorem reads_binary {s : Schema} (hs : s ≠ .document) (v : s.Carrier) :
    Binary.Reads s.readBinary (s.writeBinary v) v := by
  cases s with
  | text => exact Binary.reads_text v
  | word => exact Binary.reads_uint32 v
  | integer => exact Binary.reads_int64 v
  | quote => exact Quote.reads v
  | event => exact Event.reads v
  | document => exact absurd rfl hs
  | table => exact reads_table v

theorem restores_binary {s : Schema} (hs : s ≠ .document) {v : s.Carrier}
    (hlen : (s.writeBinary v).length < UInt64.size) : s.Restores .binary v := by
  intro b hb
  have hread := reads_binary hs v hlen []
  rw [List.append_nil] at hread
  rw [write, Output.toExcept_done] at hb
  rw [← Except.ok.inj hb, read?, hread]
  rfl

end Schema

namespace Payload

/-- Whether what is written of a payload in a wire format is read as its value. -/
def Restored : Payload → Prop
  | ⟨.schema s, v⟩ => ∀ w, s.Restores w v
  | ⟨.literal, _⟩ => True
  | ⟨.raw _, _⟩ => True

/-- Whether eight bytes can say how long a payload is. -/
def Countable : Payload → Prop
  | ⟨.schema s, v⟩ => (s.writeBinary v).length < UInt64.size
  | ⟨.literal, _⟩ => True
  | ⟨.raw _, _⟩ => True

theorem restored_of_countable {p : Payload} (hp : p.type ≠ .schema .document) (h : p.Countable) :
    p.Restored := by
  obtain ⟨type, v⟩ := p
  cases type with
  | schema s =>
      have hs : s ≠ .document := fun heq => hp (congrArg PayloadType.schema heq)
      intro w
      cases w with
      | json => exact Schema.restores_json hs v
      | binary => exact Schema.restores_binary hs h
  | literal => exact True.intro
  | raw c => exact True.intro

end Payload

end SocketStrategies
