/-!
# Dictionaries in key order

A dictionary is the list of its bindings, strictly ascending in key. Two dictionaries with the
same bindings are therefore the same list, and writing one out in order needs no sorting. Text
keys ascend by code point, which is also the order of their UTF-8 bytes.

`entries_insert_ascending` is the invariant, and `get?_insert` says what a binding made by `insert`
answers afterwards.
-/

namespace SocketStrategies

/-- Bindings in strictly ascending key order. -/
structure Dict (κ α : Type) [Ord κ] where
  entries : List (κ × α)
  /-- Each key is smaller than every later one. -/
  ascending : entries.Pairwise (fun a b => compare a.1 b.1 = .lt)

namespace Dict

variable {κ α : Type} [Ord κ]

/-- Puts a binding into its place in an ascending list, over an older binding of the same key. -/
def insertEntry (k : κ) (v : α) : List (κ × α) → List (κ × α)
  | [] => [(k, v)]
  | e :: rest =>
      match compare k e.1 with
      | .lt => (k, v) :: e :: rest
      | .eq => (k, v) :: rest
      | .gt => e :: insertEntry k v rest

theorem mem_insertEntry {k : κ} {v : α} {l : List (κ × α)} {e : κ × α}
    (h : e ∈ insertEntry k v l) : e = (k, v) ∨ e ∈ l := by
  induction l with
  | nil => simpa [insertEntry] using h
  | cons d rest ih =>
      unfold insertEntry at h
      split at h
      · simpa using h
      · simp at h
        rcases h with h | h
        · exact .inl h
        · exact .inr (List.mem_cons_of_mem _ h)
      · simp at h
        rcases h with h | h
        · exact .inr (by simp [h])
        · rcases ih h with h | h
          · exact .inl h
          · exact .inr (List.mem_cons_of_mem _ h)

/-- Inserting keeps an ascending list ascending. -/
theorem entries_insert_ascending [Std.TransOrd κ] [Std.LawfulEqOrd κ] (k : κ) (v : α)
    {l : List (κ × α)} (h : l.Pairwise (fun a b => compare a.1 b.1 = .lt)) :
    (insertEntry k v l).Pairwise (fun a b => compare a.1 b.1 = .lt) := by
  induction l with
  | nil => simp [insertEntry]
  | cons e rest ih =>
      have hrest := (List.pairwise_cons.mp h).2
      have hhead := (List.pairwise_cons.mp h).1
      unfold insertEntry
      split
      · rename_i hlt
        refine List.pairwise_cons.mpr ⟨fun b hb => ?_, h⟩
        rcases List.mem_cons.mp hb with rfl | hb
        · exact hlt
        · exact Std.TransCmp.lt_trans hlt (hhead b hb)
      · rename_i heq
        have hk : k = e.1 := Std.LawfulEqOrd.eq_of_compare heq
        refine List.pairwise_cons.mpr ⟨fun b hb => ?_, hrest⟩
        simpa [hk] using hhead b hb
      · rename_i hgt
        refine List.pairwise_cons.mpr ⟨fun b hb => ?_, ih hrest⟩
        rcases mem_insertEntry hb with rfl | hb
        · exact Std.OrientedCmp.lt_of_gt hgt
        · exact hhead b hb

def empty : Dict κ α := ⟨[], List.Pairwise.nil⟩

instance : Inhabited (Dict κ α) := ⟨empty⟩

/-- Binds a key, in place of its older binding if it has one. -/
def insert [Std.TransOrd κ] [Std.LawfulEqOrd κ] (d : Dict κ α) (k : κ) (v : α) : Dict κ α :=
  ⟨insertEntry k v d.entries, entries_insert_ascending k v d.ascending⟩

def get? (d : Dict κ α) (k : κ) : Option α :=
  (d.entries.find? (fun e => compare k e.1 == .eq)).map (·.2)

/-- Makes the bindings of a list one after the other, so that a later one of the same key stays. -/
def ofList [Std.TransOrd κ] [Std.LawfulEqOrd κ] (l : List (κ × α)) : Dict κ α :=
  l.foldl (fun d e => d.insert e.1 e.2) empty

/-- The bindings in key order. -/
def toList (d : Dict κ α) : List (κ × α) := d.entries

def isEmpty (d : Dict κ α) : Bool := d.entries.isEmpty

@[ext] theorem ext {a b : Dict κ α} (h : a.entries = b.entries) : a = b := by
  cases a
  cases b
  simp_all

instance [DecidableEq κ] [DecidableEq α] : DecidableEq (Dict κ α) := fun a b =>
  if h : a.entries = b.entries then .isTrue (ext h) else .isFalse (fun e => h (e ▸ rfl))

/-! ## What a dictionary answers after an insertion -/

theorem find_insertEntry_self [Std.TransOrd κ] [Std.LawfulEqOrd κ] (k : κ) (v : α)
    (l : List (κ × α)) :
    (insertEntry k v l).find? (fun e => compare k e.1 == .eq) = some (k, v) := by
  induction l with
  | nil => simp [insertEntry]
  | cons e rest ih =>
      unfold insertEntry
      split
      · simp
      · simp
      · rename_i hgt
        rw [List.find?_cons]
        simp [hgt, ih]

theorem find_insertEntry_of_ne [Std.TransOrd κ] [Std.LawfulEqOrd κ] {k j : κ} (v : α)
    (hne : j ≠ k) (l : List (κ × α)) :
    (insertEntry k v l).find? (fun e => compare j e.1 == .eq)
      = l.find? (fun e => compare j e.1 == .eq) := by
  have hj : (compare j k == .eq) = false :=
    beq_eq_false_iff_ne.mpr fun h => hne (Std.LawfulEqOrd.eq_of_compare h)
  induction l with
  | nil => simp [insertEntry, hj]
  | cons e rest ih =>
      unfold insertEntry
      split
      · rw [List.find?_cons, hj]
      · rename_i heq
        have hk : k = e.1 := Std.LawfulEqOrd.eq_of_compare heq
        rw [List.find?_cons, List.find?_cons, ← hk, hj]
      · rw [List.find?_cons, List.find?_cons, ih]

theorem get?_insert [Std.TransOrd κ] [Std.LawfulEqOrd κ] [DecidableEq κ] (d : Dict κ α) (k j : κ)
    (v : α) : (d.insert k v).get? j = if j = k then some v else d.get? j := by
  by_cases h : j = k
  · subst h
    simp [get?, insert, find_insertEntry_self]
  · simp [get?, insert, h, find_insertEntry_of_ne v h]

end Dict

end SocketStrategies
