import SocketStrategies.Payload.Record
import SocketStrategies.Proofs.Binary.Format
import SocketStrategies.Proofs.Json.Tree

/-!
# Records come back from both forms

A record is a tree of plain parts, and each part is taken out of the tree under the name that it
was put in with. In compact form the parts stand one after the other, so that each of them is read
in front of those that follow it.
-/

namespace SocketStrategies

open Json (Tree)
open Binary (Reads)

/-! ## Parts of a tree -/

namespace Json.Tree

theorem integer?_ofInt {least greatest i : Int} (h : least ≤ i ∧ i ≤ greatest) :
    integer? least greatest (.number (.ofInt i)) = some i := by
  rw [integer?, Numeral.integer?_ofInt]
  exact if_pos h

theorem list?_map {α : Type} {item? : Tree → Option α} (toTree : α → Tree)
    (h : ∀ a, item? (toTree a) = some a) (items : List α) :
    list? item? (.array (items.map toTree)) = some items := by
  rw [list?]
  induction items with
  | nil => rfl
  | cons a items ih =>
      rw [List.map_cons, List.mapM_cons, h, ih]
      rfl

theorem integer?_uint32 (n : UInt32) :
    (integer? 0 0xFFFFFFFF (.number (.ofInt n.toNat))).map (fun i => UInt32.ofNat i.toNat)
      = some n := by
  have hn := n.toNat_lt
  rw [integer?_ofInt (by omega), Option.map_some, Int.toNat_natCast, UInt32.ofNat_toNat]

theorem integer?_int64 (n : Int64) :
    (integer? (-0x8000000000000000) 0x7FFFFFFFFFFFFFFF (.number (.ofInt n.toInt))).map Int64.ofInt
      = some n := by
  have hleast := n.le_toInt
  have hgreatest := n.toInt_lt
  rw [integer?_ofInt (by omega), Option.map_some, Int64.ofInt_toInt]

end Json.Tree

/-! ## Quotes -/

namespace Quote

theorem plain_toTree (q : Quote) : q.toTree.Plain := by
  refine .object ?_ ?_
  · simp
  · simp only [List.forall_mem_cons, List.not_mem_nil, false_imp_iff, implies_true, and_true]
    exact ⟨.text q.symbol, .number _⟩

theorem ofTree?_toTree (q : Quote) : ofTree? q.toTree = some q := by
  have hrecord : q.toTree.record? ["symbol", "price"]
      = some [some (.text (some q.symbol)), some (.number (.ofInt q.price.toNat))] := by rfl
  have hprice := q.price.toNat_lt
  rw [ofTree?, hrecord]
  simp only [Option.bind_eq_bind, Option.bind_some, Tree.text?]
  rw [Tree.integer?_ofInt (by omega), Option.bind_some, Int.toNat_natCast, UInt32.ofNat_toNat]

theorem reads (q : Quote) : Reads read q.write q := by
  intro h rest
  rw [write, List.length_append] at h
  have hsymbol := Binary.reads_text q.symbol (by omega) (Binary.writeUInt32 q.price ++ rest)
  have hprice := Binary.reads_uint32 q.price (by omega) rest
  rw [read, write, List.append_assoc, hsymbol]
  simp only [Option.bind_eq_bind, Option.bind_some, hprice]

end Quote

/-! ## Events -/

namespace EventKind

theorem plain_toTree (k : EventKind) : k.toTree.Plain := by
  cases k with
  | ping => exact .text "Ping"
  | data b =>
      refine .object (by simp) ?_
      refine List.forall_mem_singleton.mpr (.array fun t ht => ?_)
      obtain ⟨x, -, rfl⟩ := List.mem_map.mp ht
      exact .number _
  | point x y =>
      refine .object (by simp) (List.forall_mem_singleton.mpr (.object (by simp) ?_))
      exact List.forall_mem_cons.mpr ⟨.number _, List.forall_mem_singleton.mpr (.number _)⟩

theorem byte?_ofInt (b : UInt8) : byte? (.number (.ofInt b.toNat)) = some b := by
  have hb := b.toNat_lt
  rw [byte?, Tree.integer?_ofInt (by omega), Option.map_some, Int.toNat_natCast, UInt8.ofNat_toNat]

theorem coordinate?_ofInt (x : Int32) : coordinate? (.number (.ofInt x.toInt)) = some x := by
  have hleast := x.le_toInt
  have hgreatest := x.toInt_lt
  rw [coordinate?, Tree.integer?_ofInt (by omega), Option.map_some, Int32.ofInt_toInt]

theorem ofTree?_toTree (k : EventKind) : ofTree? k.toTree = some k := by
  cases k with
  | ping => rfl
  | data b =>
      rw [toTree, ofTree?, Tree.list?_map _ byte?_ofInt]
      rfl
  | point x y =>
      have hrecord : (Tree.object [(some "x", .number (.ofInt x.toInt)),
            (some "y", .number (.ofInt y.toInt))]).record? ["x", "y"]
          = some [some (.number (.ofInt x.toInt)), some (.number (.ofInt y.toInt))] := by rfl
      rw [toTree, ofTree?, hrecord]
      simp only [Option.bind_eq_bind, Option.bind_some, coordinate?_ofInt]

theorem reads (k : EventKind) : Reads read k.write k := by
  intro h rest
  cases k with
  | ping =>
      have hchoice := Binary.reads_uint32 0 h rest
      rw [read, write, hchoice]
      rfl
  | data b =>
      rw [write, List.length_append] at h
      have hchoice := Binary.reads_uint32 1 (by omega) (Binary.writeBytes b ++ rest)
      have hdata := Binary.reads_bytes b (by omega) rest
      rw [read, write, List.append_assoc, hchoice]
      simp only [Option.bind_eq_bind, Option.bind_some, hdata]
      rfl
  | point x y =>
      rw [write, List.length_append, List.length_append] at h
      have hchoice :=
        Binary.reads_uint32 2 (by omega) (Binary.writeInt32 x ++ (Binary.writeInt32 y ++ rest))
      have hx := Binary.reads_int32 x (by omega) (Binary.writeInt32 y ++ rest)
      have hy := Binary.reads_int32 y (by omega) rest
      rw [read, write, List.append_assoc, List.append_assoc, hchoice]
      simp only [Option.bind_eq_bind, Option.bind_some, hx, hy]
      rfl

end EventKind

namespace Event

/-- The tree of a remark that may be missing. -/
def noteTree (note : Option String) : Tree := note.elim .null fun s => .text (some s)

theorem nullable?_noteTree (note : Option String) :
    Tree.nullable? Tree.text? (noteTree note) = some note := by
  cases note with
  | none => rfl
  | some s => rfl

theorem toTree_eq (e : Event) :
    e.toTree = .object [(some "id", .number (.ofInt e.id.toNat)),
      (some "delta", .number (.ofInt e.delta.toInt)),
      (some "name", .text (some e.name)),
      (some "tags", .array (e.tags.map fun s => .text (some s))),
      (some "note", noteTree e.note), (some "flag", .bool e.flag),
      (some "kind", e.kind.toTree)] := by
  obtain ⟨id, delta, name, tags, note, flag, kind⟩ := e
  cases note with
  | none => rfl
  | some s => rfl

theorem plain_toTree (e : Event) : e.toTree.Plain := by
  have hnote : (noteTree e.note).Plain := by
    cases e.note with
    | none => exact .null
    | some s => exact .text s
  have htags : (Tree.array (e.tags.map fun s => .text (some s))).Plain := by
    refine .array fun t ht => ?_
    obtain ⟨s, -, rfl⟩ := List.mem_map.mp ht
    exact .text s
  rw [toTree_eq]
  refine .object (by simp) ?_
  simp only [List.forall_mem_cons, List.not_mem_nil, false_imp_iff, implies_true, and_true]
  exact ⟨.number _, .number _, .text _, htags, hnote, .bool _, e.kind.plain_toTree⟩

theorem ofTree?_toTree (e : Event) : ofTree? e.toTree = some e := by
  have hrecord : e.toTree.record? ["id", "delta", "name", "tags", "note", "flag", "kind"]
      = some [some (.number (.ofInt e.id.toNat)), some (.number (.ofInt e.delta.toInt)),
        some (.text (some e.name)), some (.array (e.tags.map fun s => .text (some s))),
        some (noteTree e.note), some (.bool e.flag), some e.kind.toTree] := by
    rw [toTree_eq]
    rfl
  have hid := e.id.toNat_lt
  have hleast := e.delta.le_toInt
  have hgreatest := e.delta.toInt_lt
  have htags : Tree.list? Tree.text? (.array (e.tags.map fun s => .text (some s))) = some e.tags :=
    Tree.list?_map (fun s => .text (some s)) (fun _ => rfl) e.tags
  rw [ofTree?, hrecord]
  simp only [Option.bind_eq_bind, Option.bind_some]
  rw [Tree.integer?_ofInt (by omega), Option.bind_some, Tree.integer?_ofInt (by omega),
    Option.bind_some]
  simp only [Tree.text?, Tree.bool?, Option.getD_some, htags, nullable?_noteTree,
    EventKind.ofTree?_toTree, Option.bind_some, Int.toNat_natCast, UInt64.ofNat_toNat,
    Int64.ofInt_toInt]

theorem reads (e : Event) : Reads read e.write e := by
  intro h rest
  simp only [write, List.length_append] at h
  have hid := Binary.reads_uint64 e.id (by omega)
  have hdelta := Binary.reads_int64 e.delta (by omega)
  have hname := Binary.reads_text e.name (by omega)
  have htags := Binary.reads_list Binary.length_writeText_pos Binary.reads_text e.tags (by omega)
  have hnote := Binary.reads_optional Binary.reads_text e.note (by omega)
  have hflag := Binary.reads_bool e.flag (by omega)
  have hkind := EventKind.reads e.kind (by omega)
  simp only [read, write, List.append_assoc, Option.bind_eq_bind, Option.bind_some, hid, hdelta,
    hname, htags, hnote, hflag, hkind]

end Event

end SocketStrategies
