import SocketStrategies.Json.Document
import SocketStrategies.Proofs.Dict
import SocketStrategies.Proofs.Json.Tree

/-!
# Documents come back from their trees

A document without real numbers is what its tree means. An integer is spelt as one and kept
exactly. The fields of an object ascend, so each of them goes to the end when they are put in one
after the other. The depth of a tree matters only where one is read, and it is looked at once,
for the whole tree.
-/

namespace SocketStrategies.Json.Document

/-- Documents without real numbers. The names of an object's fields ascend, so that each
stands there once. -/
inductive Exact : Document → Prop where
  | null : Exact .null
  | bool (b : Bool) : Exact (.bool b)
  | integer (i : ExactInt) : Exact (.integer i)
  | text (s : String) : Exact (.text s)
  | array {items : List Document} : (∀ d ∈ items, Exact d) → Exact (.array items)
  | object {fields : List (String × Document)} :
      fields.Pairwise (fun a b => compare a.1 b.1 = .lt) →
      (∀ f ∈ fields, Exact f.2) → Exact (.object fields)

theorem toItems_eq (items : List Document) : toItems items = items.map toTree := by
  induction items with
  | nil => rfl
  | cons d items ih => rw [toItems, ih, List.map_cons]

theorem toFields_eq (fields : List (String × Document)) :
    toFields fields = fields.map fun f => (some f.1, f.2.toTree) := by
  induction fields with
  | nil => rfl
  | cons f fields ih => rw [toFields, ih, List.map_cons]

theorem plain_toTree {d : Document} (h : d.Exact) : d.toTree.Plain := by
  induction h with
  | null => exact .null
  | bool b => exact .bool b
  | integer i => exact .number i.value
  | text s => exact .text s
  | array _ ih =>
      rw [toTree, toItems_eq]
      refine .array fun t ht => ?_
      obtain ⟨d, hd, rfl⟩ := List.mem_map.mp ht
      exact ih d hd
  | object _ _ ih =>
      rw [toTree, toFields_eq]
      refine .object (fun f hf => ?_) fun f hf => ?_
      · obtain ⟨g, -, rfl⟩ := List.mem_map.mp hf
        rfl
      · obtain ⟨g, hg, rfl⟩ := List.mem_map.mp hf
        exact ih g hg

/-! ## What a tree means -/

theorem ofNumeral?_ofInt (i : ExactInt) : ofNumeral? (.ofInt i.value) = some (.integer i) := by
  have hexact : ExactInt.ofInt? i.value = some i := dif_pos i.range
  rw [ofNumeral?, Numeral.integer?_ofInt, Option.bind_some, hexact]

theorem ofItems?_toItems {items : List Document} (h : ∀ d ∈ items, ofTree? d.toTree = some d) :
    ofItems? (toItems items) = some items := by
  induction items with
  | nil => rfl
  | cons d items ih =>
      obtain ⟨hd, hitems⟩ := List.forall_mem_cons.mp h
      rw [toItems, ofItems?, hd, ih hitems]
      rfl

/-- Fields that ascend go behind those that stand before them. -/
theorem ofFields?_toFields {before fields : List (String × Document)}
    (hascending : (before ++ fields).Pairwise (fun a b => compare a.1 b.1 = .lt))
    (h : ∀ f ∈ fields, ofTree? f.2.toTree = some f.2) :
    ofFields? before (toFields fields) = some (before ++ fields) := by
  induction fields generalizing before with
  | nil => rw [toFields, ofFields?, List.append_nil]
  | cons f fields ih =>
      obtain ⟨name, d⟩ := f
      obtain ⟨hd, hfields⟩ := List.forall_mem_cons.mp h
      have hlast : ∀ e ∈ before, compare e.1 name = .lt :=
        fun e he => (List.pairwise_append.mp hascending).2.2 e he _ List.mem_cons_self
      rw [List.append_cons] at hascending
      dsimp only at hd
      rw [toFields, ofFields?, hd]
      simp only [Option.bind_eq_bind, Option.bind_some]
      rw [Dict.insertEntry_of_forall_lt d hlast, ih hascending hfields, List.append_assoc,
        List.singleton_append]

theorem ofTree?_toTree {d : Document} (h : d.Exact) : ofTree? d.toTree = some d := by
  induction h with
  | null => rfl
  | bool b => rfl
  | integer i => rw [toTree, ofTree?, ofNumeral?_ofInt]
  | text s => rfl
  | array _ ih =>
      rw [toTree, ofTree?, ofItems?_toItems ih]
      rfl
  | @object fields hascending _ ih =>
      have hfields : ofFields? [] (toFields fields) = some ([] ++ fields) :=
        ofFields?_toFields hascending ih
      rw [toTree, ofTree?, hfields]
      rfl

/-- **A document is read from its tree**, unless the tree is too deep. -/
theorem read?_toTree {d : Document} (h : d.Exact) (hdepth : d.toTree.depth ≤ maxDepth) :
    read? d.toTree = some d := by
  rw [read?, if_pos hdepth, ofTree?_toTree h]

end SocketStrategies.Json.Document
