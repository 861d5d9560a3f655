import SocketStrategies.Proofs.Json.Numeral
import SocketStrategies.Proofs.Json.Text

/-!
# Trees are read as they were written

A tree whose numbers are integers and whose texts are texts is written without blanks, and the
byte it starts with tells what it is. Reading therefore takes the same way through the tree that
writing took. The bound on calls that readers of nested values count down is no bound here: the
written form of a part is shorter than that of the whole, so as many calls as there are bytes are
enough. What follows a tree does not matter, except that a number goes on where a digit follows.
-/

namespace SocketStrategies.Json

open Numeral (EndsAt endsAt_nil endsAt_cons)

/-- Trees whose numbers are integers and whose texts are texts. -/
inductive Tree.Plain : Tree → Prop where
  | null : Plain .null
  | bool (b : Bool) : Plain (.bool b)
  | number (i : Int) : Plain (.number (.ofInt i))
  | text (s : String) : Plain (.text (some s))
  | array {items : List Tree} : (∀ t ∈ items, Plain t) → Plain (.array items)
  | object {fields : List (Option String × Tree)} :
      (∀ f ∈ fields, f.1.isSome = true) → (∀ f ∈ fields, Plain f.2) → Plain (.object fields)

/-! ## How a tree starts -/

theorem skipBlanks_cons {c : UInt8} (h : isBlank c = false) (b : Bytes) :
    skipBlanks (c :: b) = c :: b := by
  rw [skipBlanks, List.dropWhile_cons, h, if_neg Bool.false_ne_true]

/-- A number starts with nothing that another tree starts with. -/
theorem number_start {c : UInt8} (h : c = 45 ∨ Decimal.isDigit c = true) :
    isBlank c = false ∧ c ∉ [34, 91, 93, 102, 110, 116, 123] := by
  rcases h with rfl | h
  · decide
  · have hall : ∀ n < 10, isBlank (Decimal.digit n) = false
        ∧ Decimal.digit n ∉ ([34, 91, 93, 102, 110, 116, 123] : Bytes) := by decide
    rw [Decimal.isDigit, Bool.and_eq_true, decide_eq_true_eq, decide_eq_true_eq,
      UInt8.le_iff_toNat_le, UInt8.le_iff_toNat_le] at h
    obtain ⟨hleast, hgreatest⟩ : 48 ≤ c.toNat ∧ c.toNat ≤ 57 := h
    have hc : Decimal.digit (c.toNat - 48) = c := by
      rw [Decimal.digit, Nat.add_sub_cancel' hleast, UInt8.ofNat_toNat]
    rw [← hc]
    exact hall _ (by omega)

/-- A tree starts with a byte that is neither blank nor a bracket that closes a list. -/
theorem exists_write {t : Tree} (h : t.Plain) :
    ∃ c b, t.write = c :: b ∧ isBlank c = false ∧ c ≠ 93 := by
  cases h with
  | null => exact ⟨110, _, rfl, by decide, by decide⟩
  | bool b =>
      cases b with
      | true => exact ⟨116, _, rfl, by decide, by decide⟩
      | false => exact ⟨102, _, rfl, by decide, by decide⟩
  | number i =>
      obtain ⟨c, b, hwrite, hc⟩ := Numeral.exists_write_ofInt i
      obtain ⟨hblank, hother⟩ := number_start hc
      rw [Tree.write, hwrite]
      refine ⟨c, b, rfl, hblank, ?_⟩
      rintro rfl
      exact hother (by decide)
  | text s => exact ⟨34, _, rfl, by decide, by decide⟩
  | array _ => exact ⟨91, _, by rw [Tree.write], by decide, by decide⟩
  | object _ _ => exact ⟨123, _, by rw [Tree.write], by decide, by decide⟩

theorem length_write_pos {t : Tree} (h : t.Plain) : 0 < t.write.length := by
  obtain ⟨c, b, hwrite, -⟩ := exists_write h
  rw [hwrite]
  exact Nat.succ_pos _

theorem writeItems_cons_cons (t t' : Tree) (ts : List Tree) :
    Tree.writeItems (t :: t' :: ts) = t.write ++ 44 :: Tree.writeItems (t' :: ts) := by
  rw [Tree.writeItems]
  exact List.cons_ne_nil t' ts

theorem writeFields_cons_cons (name : Option String) (t : Tree) (f : Option String × Tree)
    (fs : List (Option String × Tree)) :
    Tree.writeFields ((name, t) :: f :: fs)
      = writeText (name.getD "") ++ 58 :: t.write ++ 44 :: Tree.writeFields (f :: fs) := by
  rw [Tree.writeFields]
  exact List.cons_ne_nil f fs

/-- What closes a list or an object is written at least. -/
theorem length_writeItems_pos (ts : List Tree) : 0 < (Tree.writeItems ts).length := by
  cases ts with
  | nil => exact Nat.one_pos
  | cons t ts =>
      cases ts with
      | nil =>
          rw [Tree.writeItems, List.length_append, List.length_singleton]
          omega
      | cons t' ts =>
          rw [writeItems_cons_cons, List.length_append, List.length_cons]
          omega

theorem length_writeFields_pos (fs : List (Option String × Tree)) :
    0 < (Tree.writeFields fs).length := by
  cases fs with
  | nil => exact Nat.one_pos
  | cons f fs =>
      cases fs with
      | nil =>
          rw [Tree.writeFields, List.length_append, List.length_singleton]
          omega
      | cons f' fs =>
          rw [writeFields_cons_cons, List.length_append, List.length_cons]
          omega

/-! ## One call -/

/-- Whether a tree is over where these bytes start. Only a number may go on. -/
def Tree.EndsBefore (t : Tree) (rest : Bytes) : Prop := ∀ n, t = .number n → EndsAt rest

theorem Tree.EndsBefore.of_endsAt {rest : Bytes} (h : EndsAt rest) (t : Tree) :
    t.EndsBefore rest := fun _ _ => h

/-- Whether as many calls are enough for everything that is no longer. -/
structure ReadsBack (fuel : Nat) : Prop where
  tree : ∀ {t : Tree}, t.Plain → t.write.length ≤ fuel → ∀ {rest : Bytes}, t.EndsBefore rest →
    readTree fuel (t.write ++ rest) = some (t, rest)
  items : ∀ {ts : List Tree}, ts ≠ [] → (∀ t ∈ ts, t.Plain) → (Tree.writeItems ts).length ≤ fuel →
    ∀ rest, readItems fuel (Tree.writeItems ts ++ rest) = some (ts, rest)
  fields : ∀ {fs : List (Option String × Tree)}, fs ≠ [] → (∀ f ∈ fs, f.1.isSome = true) →
    (∀ f ∈ fs, f.2.Plain) → (Tree.writeFields fs).length ≤ fuel →
    ∀ rest, readFields fuel (Tree.writeFields fs ++ rest) = some (fs, rest)

/-- What starts as a number is read as one or not at all. -/
theorem readTree_ofInt (fuel : Nat) (i : Int) (rest : Bytes) :
    readTree (fuel + 1) ((Numeral.ofInt i).write ++ rest)
      = (Numeral.read ((Numeral.ofInt i).write ++ rest)).map fun r => (.number r.1, r.2) := by
  obtain ⟨c, b, hwrite, hc⟩ := Numeral.exists_write_ofInt i
  obtain ⟨hblank, hother⟩ := number_start hc
  rw [hwrite, List.cons_append]
  simp only [List.mem_cons, List.not_mem_nil, or_false, not_or] at hother
  obtain ⟨hquote, hlist, -, hfalse, hnull, htrue, hobject⟩ := hother
  rw [readTree, skipBlanks_cons hblank]
  split
  · exact absurd (List.cons.inj ‹_›).1 hnull
  · exact absurd (List.cons.inj ‹_›).1 htrue
  · exact absurd (List.cons.inj ‹_›).1 hfalse
  · exact absurd (List.cons.inj ‹_›).1 hquote
  · exact absurd (List.cons.inj ‹_›).1 hlist
  · exact absurd (List.cons.inj ‹_›).1 hobject
  · exact Option.map_eq_bind.symm

theorem readTree_number {fuel : Nat} {i : Int} {rest : Bytes} (h : EndsAt rest) :
    readTree (fuel + 1) ((Numeral.ofInt i).write ++ rest) = some (.number (.ofInt i), rest) := by
  rw [readTree_ofInt, Numeral.read_write_ofInt i h]
  rfl

theorem readTree_text (fuel : Nat) (s : String) (rest : Bytes) :
    readTree (fuel + 1) (writeText s ++ rest) = some (.text (some s), rest) := by
  obtain ⟨inner, hinner, hread⟩ := readText_writeText s rest
  rw [hinner, readTree, skipBlanks_cons (by decide)]
  simp only [hread, Option.bind_eq_bind, Option.bind_some]

theorem readTree_list {c : UInt8} (hblank : isBlank c = false) (hc : c ≠ 93) (fuel : Nat)
    (b : Bytes) :
    readTree (fuel + 1) (91 :: c :: b) = (readItems fuel (c :: b)).map fun r =>
      (.array r.1, r.2) := by
  simp only [readTree, skipBlanks_cons (c := 91) (by decide), skipBlanks_cons hblank]
  split
  · exact absurd (List.cons.inj ‹_›).1 hc
  · exact Option.map_eq_bind.symm

theorem readTree_array {fuel : Nat} (h : ReadsBack fuel) {items : List Tree}
    (hitems : ∀ t ∈ items, t.Plain) (hlen : (Tree.writeItems items).length ≤ fuel) (rest : Bytes) :
    readTree (fuel + 1) (91 :: Tree.writeItems items ++ rest) = some (.array items, rest) := by
  cases items with
  | nil => rfl
  | cons t ts =>
      -- the first item does not start as the list ends
      have hstart : ∃ c b, Tree.writeItems (t :: ts) ++ rest = c :: b ∧ isBlank c = false
          ∧ c ≠ 93 := by
        obtain ⟨c, b, hwrite, hc⟩ := exists_write (hitems t List.mem_cons_self)
        cases ts with
        | nil => exact ⟨c, _, by rw [Tree.writeItems, hwrite]; rfl, hc⟩
        | cons t' ts => exact ⟨c, _, by rw [writeItems_cons_cons, hwrite]; rfl, hc⟩
      obtain ⟨c, b, hb, hblank, hclose⟩ := hstart
      have hread := h.items (List.cons_ne_nil t ts) hitems hlen rest
      rw [hb] at hread
      rw [List.cons_append, hb, readTree_list hblank hclose, hread]
      rfl

/-- The first name of an object opens with a quotation mark, and not as the object ends. -/
theorem readTree_object {fuel : Nat} (h : ReadsBack fuel) {fields : List (Option String × Tree)}
    (hnames : ∀ f ∈ fields, f.1.isSome = true) (hfields : ∀ f ∈ fields, f.2.Plain)
    (hlen : (Tree.writeFields fields).length ≤ fuel) (rest : Bytes) :
    readTree (fuel + 1) (123 :: Tree.writeFields fields ++ rest)
      = some (.object fields, rest) := by
  cases fields with
  | nil => rfl
  | cons f fs =>
      have hstart : ∃ b, Tree.writeFields (f :: fs) ++ rest = 34 :: b := by
        cases fs with
        | nil => exact ⟨_, by rw [Tree.writeFields]; rfl⟩
        | cons f' fs => exact ⟨_, by rw [writeFields_cons_cons]; rfl⟩
      obtain ⟨b, hb⟩ := hstart
      have hread := h.fields (List.cons_ne_nil f fs) hnames hfields hlen rest
      have hobject : readTree (fuel + 1) (123 :: 34 :: b)
          = (readFields fuel (34 :: b)).bind fun r => some (.object r.1, r.2) := rfl
      rw [hb] at hread
      rw [List.cons_append, hb, hobject, hread]
      rfl

theorem readTree_step {fuel : Nat} (h : ReadsBack fuel) {t : Tree} (ht : t.Plain)
    (hlen : t.write.length ≤ fuel + 1) {rest : Bytes} (hrest : t.EndsBefore rest) :
    readTree (fuel + 1) (t.write ++ rest) = some (t, rest) := by
  cases ht with
  | null => rfl
  | bool b =>
      cases b with
      | true => rfl
      | false => rfl
  | number i => exact readTree_number (hrest _ rfl)
  | text s => exact readTree_text fuel s rest
  | array hitems =>
      rw [Tree.write, List.length_cons] at hlen
      rw [Tree.write]
      exact readTree_array h hitems (Nat.le_of_succ_le_succ hlen) rest
  | object hnames hfields =>
      rw [Tree.write, List.length_cons] at hlen
      rw [Tree.write]
      exact readTree_object h hnames hfields (Nat.le_of_succ_le_succ hlen) rest

/-- A comma and the brackets that close end a number. -/
theorem endsBefore_separator {c : UInt8} (h : c ∈ [44, 93, 125]) (t : Tree) (b : Bytes) :
    t.EndsBefore (c :: b) := by
  refine .of_endsAt ?_ t
  simp only [List.mem_cons, List.not_mem_nil, or_false] at h
  rcases h with rfl | rfl | rfl
  · exact endsAt_cons (by decide) b
  · exact endsAt_cons (by decide) b
  · exact endsAt_cons (by decide) b

theorem readItems_step {fuel : Nat} (h : ReadsBack fuel) {ts : List Tree} (hne : ts ≠ [])
    (hts : ∀ t ∈ ts, t.Plain) (hlen : (Tree.writeItems ts).length ≤ fuel + 1) (rest : Bytes) :
    readItems (fuel + 1) (Tree.writeItems ts ++ rest) = some (ts, rest) := by
  cases ts with
  | nil => exact absurd rfl hne
  | cons t ts =>
      obtain ⟨ht, hts⟩ := List.forall_mem_cons.mp hts
      have hpos := length_write_pos ht
      cases ts with
      | nil =>
          rw [Tree.writeItems, List.length_append, List.length_singleton] at hlen
          rw [Tree.writeItems, List.append_assoc, List.singleton_append, readItems,
            h.tree ht (by omega) (endsBefore_separator (by decide) t rest)]
          rfl
      | cons t' ts =>
          rw [writeItems_cons_cons, List.length_append, List.length_cons] at hlen
          have hmore := h.items (List.cons_ne_nil t' ts) hts (by omega) rest
          rw [writeItems_cons_cons, List.append_assoc, List.cons_append, readItems,
            h.tree ht (by omega) (endsBefore_separator (by decide) t _)]
          simp only [Option.bind_eq_bind, Option.bind_some, skipBlanks_cons (c := 44) (by decide),
            hmore]

/-- The last field is followed by the brace that closes the object. -/
theorem readFields_last {fuel : Nat} {t : Tree} {b rest : Bytes}
    (ht : readTree fuel b = some (t, 125 :: rest)) (name : String) :
    readFields (fuel + 1) (writeText name ++ 58 :: b) = some ([(some name, t)], rest) := by
  obtain ⟨inner, hinner, hread⟩ := readText_writeText name (58 :: b)
  rw [hinner, readFields]
  simp only [skipBlanks_cons (c := 34) (by decide), hread, Option.bind_eq_bind, Option.bind_some,
    skipBlanks_cons (c := 58) (by decide), ht, skipBlanks_cons (c := 125) (by decide)]

/-- Any other field is followed by a comma and by the fields after it. -/
theorem readFields_more {fuel : Nat} {t : Tree} {fs : List (Option String × Tree)}
    {b b' rest : Bytes}
    (ht : readTree fuel b = some (t, 44 :: b')) (hfs : readFields fuel b' = some (fs, rest))
    (name : String) :
    readFields (fuel + 1) (writeText name ++ 58 :: b) = some ((some name, t) :: fs, rest) := by
  obtain ⟨inner, hinner, hread⟩ := readText_writeText name (58 :: b)
  rw [hinner, readFields]
  simp only [skipBlanks_cons (c := 34) (by decide), hread, Option.bind_eq_bind, Option.bind_some,
    skipBlanks_cons (c := 58) (by decide), ht, skipBlanks_cons (c := 44) (by decide), hfs]

theorem readFields_step {fuel : Nat} (h : ReadsBack fuel) {fs : List (Option String × Tree)}
    (hne : fs ≠ []) (hnames : ∀ f ∈ fs, f.1.isSome = true) (hfs : ∀ f ∈ fs, f.2.Plain)
    (hlen : (Tree.writeFields fs).length ≤ fuel + 1) (rest : Bytes) :
    readFields (fuel + 1) (Tree.writeFields fs ++ rest) = some (fs, rest) := by
  cases fs with
  | nil => exact absurd rfl hne
  | cons f fs =>
      obtain ⟨hname, hnames'⟩ := List.forall_mem_cons.mp hnames
      obtain ⟨ht, hfs'⟩ := List.forall_mem_cons.mp hfs
      obtain ⟨name, t⟩ := f
      dsimp only at hname ht
      obtain ⟨name, rfl⟩ := Option.isSome_iff_exists.mp hname
      cases fs with
      | nil =>
          rw [Tree.writeFields, List.length_append, List.length_append, List.length_cons] at hlen
          have htree := h.tree ht (by omega) (endsBefore_separator (c := 125) (by decide) t rest)
          rw [Tree.writeFields, List.append_assoc, List.append_assoc, List.cons_append,
            List.singleton_append]
          exact readFields_last htree name
      | cons f' fs =>
          rw [writeFields_cons_cons, List.length_append, List.length_append, List.length_cons,
            List.length_cons] at hlen
          have hmore := h.fields (List.cons_ne_nil f' fs) hnames' hfs' (by omega) rest
          have htree := h.tree ht (by omega)
            (endsBefore_separator (c := 44) (by decide) t (Tree.writeFields (f' :: fs) ++ rest))
          rw [writeFields_cons_cons, List.append_assoc, List.append_assoc, List.cons_append,
            List.cons_append]
          exact readFields_more htree hmore name

/-! ## All calls -/

theorem readsBack (fuel : Nat) : ReadsBack fuel := by
  induction fuel with
  | zero =>
      -- nothing is written in no bytes
      constructor
      · intro t ht hlen
        exact absurd hlen (Nat.not_le.mpr (length_write_pos ht))
      · intro ts _ _ hlen
        exact absurd hlen (Nat.not_le.mpr (length_writeItems_pos ts))
      · intro fs _ _ _ hlen
        exact absurd hlen (Nat.not_le.mpr (length_writeFields_pos fs))
  | succ fuel ih => exact ⟨readTree_step ih, readItems_step ih, readFields_step ih⟩

/-- **A tree is read as it was written.** -/
theorem read?_write {t : Tree} (h : t.Plain) : read? t.write = some t := by
  have hread := (readsBack (2 * t.write.length + 2)).tree h (by omega) (.of_endsAt endsAt_nil t)
  rw [List.append_nil] at hread
  rw [read?, hread]
  rfl

end SocketStrategies.Json
