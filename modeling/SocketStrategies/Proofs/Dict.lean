import SocketStrategies.Dict

/-!
# A dictionary is what it answers

Bindings stand in ascending order, so no two lists of bindings answer alike: a dictionary is
settled by `get?`. Bindings made one after the other answer with the last one made of a key, and
so does a dictionary that is overridden by another.
-/

namespace SocketStrategies.Dict

variable {κ α : Type} [Ord κ] [Std.TransOrd κ] [Std.LawfulEqOrd κ]

/-! ## Equal answers, equal dictionaries -/

omit [Std.TransOrd κ] [Std.LawfulEqOrd κ] in
/-- A key below all bindings is not bound. -/
theorem find?_eq_none_of_lt {k : κ} {l : List (κ × α)} (h : ∀ e ∈ l, compare k e.1 = .lt) :
    l.find? (fun e => compare k e.1 == .eq) = none := by
  rw [List.find?_eq_none]
  intro e he
  rw [h e he]
  decide

/-- The list whose first key is smaller binds that key, and the other does not. -/
theorem find?_ne_of_first_lt {e f : κ × α} {l m : List (κ × α)}
    (hm : (f :: m).Pairwise (fun a b => compare a.1 b.1 = .lt)) (hlt : compare e.1 f.1 = .lt) :
    (e :: l).find? (fun b => compare e.1 b.1 == .eq)
      ≠ (f :: m).find? (fun b => compare e.1 b.1 == .eq) := by
  have hnone : (f :: m).find? (fun b => compare e.1 b.1 == .eq) = none := by
    refine find?_eq_none_of_lt fun b hb => ?_
    rcases List.mem_cons.mp hb with rfl | hb
    · exact hlt
    · exact Std.TransCmp.lt_trans hlt ((List.pairwise_cons.mp hm).1 b hb)
  rw [hnone, List.find?_cons, Std.ReflOrd.compare_self, beq_self_eq_true]
  exact Option.some_ne_none _

theorem eq_of_find?_eq {l m : List (κ × α)}
    (hl : l.Pairwise (fun a b => compare a.1 b.1 = .lt))
    (hm : m.Pairwise (fun a b => compare a.1 b.1 = .lt))
    (h : ∀ k, l.find? (fun e => compare k e.1 == .eq) = m.find? (fun e => compare k e.1 == .eq)) :
    l = m := by
  induction l generalizing m with
  | nil =>
      cases m with
      | nil => rfl
      | cons f m =>
          have hf := h f.1
          rw [List.find?_nil, List.find?_cons, Std.ReflOrd.compare_self, beq_self_eq_true] at hf
          exact absurd hf.symm (Option.some_ne_none f)
  | cons e l ih =>
      cases m with
      | nil =>
          have he := h e.1
          rw [List.find?_nil, List.find?_cons, Std.ReflOrd.compare_self, beq_self_eq_true] at he
          exact absurd he (Option.some_ne_none e)
      | cons f m =>
          -- of two first keys the smaller would be bound on one side only
          have hkey : e.1 = f.1 := by
            cases hc : compare e.1 f.1 with
            | eq => exact Std.LawfulEqOrd.eq_of_compare hc
            | lt => exact absurd (h e.1) (find?_ne_of_first_lt hm hc)
            | gt =>
                exact absurd (h f.1).symm (find?_ne_of_first_lt hl (Std.OrientedCmp.lt_of_gt hc))
          have hef : e = f := by
            have he := h e.1
            rw [List.find?_cons, List.find?_cons, ← hkey, Std.ReflOrd.compare_self,
              beq_self_eq_true] at he
            exact Option.some.inj he
          subst hef
          obtain ⟨hle, hl⟩ := List.pairwise_cons.mp hl
          obtain ⟨hme, hm⟩ := List.pairwise_cons.mp hm
          refine congrArg (e :: ·) (ih hl hm fun k => ?_)
          have hk := h k
          rw [List.find?_cons, List.find?_cons] at hk
          cases hc : compare k e.1 == .eq with
          | false =>
              rw [hc] at hk
              exact hk
          | true =>
              -- the first key is bound in neither rest
              obtain rfl := Std.LawfulEqOrd.eq_of_compare (beq_iff_eq.mp hc)
              rw [find?_eq_none_of_lt hle, find?_eq_none_of_lt hme]

omit [Std.TransOrd κ] in
/-- What is found under a key is that key with its value. -/
theorem find?_eq_map (l : List (κ × α)) (k : κ) :
    l.find? (fun e => compare k e.1 == .eq)
      = ((l.find? fun e => compare k e.1 == .eq).map (·.2)).map (k, ·) := by
  cases h : l.find? fun e => compare k e.1 == .eq with
  | none => rfl
  | some e =>
      have hk := List.find?_some (p := fun e : κ × α => compare k e.1 == .eq) h
      obtain rfl := Std.LawfulEqOrd.eq_of_compare (beq_iff_eq.mp hk)
      rfl

theorem ext_get? {a b : Dict κ α} (h : ∀ k, a.get? k = b.get? k) : a = b := by
  refine ext (eq_of_find?_eq a.ascending b.ascending fun k => ?_)
  rw [find?_eq_map a.entries k, find?_eq_map b.entries k]
  exact congrArg (Option.map (k, ·)) (h k)

/-! ## Bindings made one after the other -/

omit [Std.LawfulEqOrd κ] in
/-- A key above all others goes to the end. -/
theorem insertEntry_of_forall_lt {k : κ} (v : α) {l : List (κ × α)}
    (h : ∀ e ∈ l, compare e.1 k = .lt) :
    insertEntry k v l = l ++ [(k, v)] := by
  induction l with
  | nil => rfl
  | cons e l ih =>
      obtain ⟨he, hl⟩ := List.forall_mem_cons.mp h
      rw [insertEntry, Std.OrientedCmp.gt_of_lt he, ih hl, List.cons_append]

theorem get?_foldl_insert [DecidableEq κ] (l : List (κ × α)) (d : Dict κ α) (k : κ) :
    (l.foldl (fun d e => d.insert e.1 e.2) d).get? k = (l.reverse.lookup k).or (d.get? k) := by
  induction l generalizing d with
  | nil => rfl
  | cons e l ih =>
      rw [List.foldl_cons, ih, get?_insert, List.reverse_cons, List.lookup_append, Option.or_assoc]
      congr 1
      rw [List.lookup_cons, List.lookup_nil]
      by_cases hk : k = e.1
      · rw [if_pos hk, beq_iff_eq.mpr hk]
        rfl
      · rw [if_neg hk, beq_eq_false_iff_ne.mpr hk]
        rfl

theorem get?_ofList [DecidableEq κ] (l : List (κ × α)) (k : κ) :
    (ofList l).get? k = l.reverse.lookup k := by
  rw [ofList, get?_foldl_insert]
  exact Option.or_none

omit [Ord κ] [Std.TransOrd κ] [Std.LawfulEqOrd κ] in
theorem lookup_filter [DecidableEq κ] (l : List (κ × α)) (k : κ) :
    (l.filter fun e => e.1 == k).lookup k = l.lookup k := by
  induction l with
  | nil => rfl
  | cons e l ih =>
      rw [List.filter_cons, List.lookup_cons]
      by_cases hk : k = e.1
      · rw [if_pos (beq_iff_eq.mpr hk.symm), List.lookup_cons, beq_iff_eq.mpr hk]
      · have hne : ¬ (e.1 == k) = true := fun h => hk (beq_iff_eq.mp h).symm
        rw [if_neg hne, ih, beq_eq_false_iff_ne.mpr hk]

/-- Only the order of bindings of the same key matters. -/
theorem ofList_congr [DecidableEq κ] {l l' : List (κ × α)}
    (h : ∀ k, (l.filter fun e => e.1 == k) = l'.filter fun e => e.1 == k) :
    ofList l = ofList l' := by
  refine ext_get? fun k => ?_
  rw [get?_ofList, get?_ofList, ← lookup_filter l.reverse, ← lookup_filter l'.reverse,
    List.filter_reverse, List.filter_reverse, h k]

theorem mem_entries_ofList {l : List (κ × α)} {e : κ × α} (h : e ∈ (ofList l).entries) :
    e ∈ l := by
  have hfold : ∀ d : Dict κ α, e ∈ (l.foldl (fun d e => d.insert e.1 e.2) d).entries →
      e ∈ d.entries ∨ e ∈ l := by
    clear h
    induction l with
    | nil => exact fun d h => Or.inl h
    | cons f l ih =>
        intro d h
        rcases ih (d.insert f.1 f.2) h with h | h
        · rcases mem_insertEntry h with rfl | h
          · exact Or.inr List.mem_cons_self
          · exact Or.inl h
        · exact Or.inr (List.mem_cons_of_mem f h)
  exact (hfold empty h).resolve_left List.not_mem_nil

/-! ## One dictionary over another -/

/-- Makes the bindings of another dictionary over those that are there. -/
def override (d later : Dict κ α) : Dict κ α := later.entries.foldl (fun d e => d.insert e.1 e.2) d

/-- Keys differ, so it does not matter from which end a binding is looked for. -/
theorem lookup_reverse_eq_find? [DecidableEq κ] {l : List (κ × α)}
    (h : l.Pairwise (fun a b => compare a.1 b.1 = .lt)) (k : κ) :
    l.reverse.lookup k = (l.find? fun e => compare k e.1 == .eq).map (·.2) := by
  induction l with
  | nil => rfl
  | cons e l ih =>
      obtain ⟨hlt, hl⟩ := List.pairwise_cons.mp h
      rw [List.reverse_cons, List.lookup_append, ih hl, List.find?_cons, List.lookup_cons,
        List.lookup_nil]
      by_cases hk : k = e.1
      · subst hk
        rw [find?_eq_none_of_lt hlt, Std.ReflOrd.compare_self, beq_self_eq_true, beq_self_eq_true]
        rfl
      · have hc : (compare k e.1 == .eq) = false :=
          beq_eq_false_iff_ne.mpr fun hc => hk (Std.LawfulEqOrd.eq_of_compare hc)
        rw [hc, beq_eq_false_iff_ne.mpr hk]
        exact Option.or_none

/-- A dictionary is made of its own bindings. -/
theorem ofList_entries [DecidableEq κ] (d : Dict κ α) : ofList d.entries = d := by
  refine ext_get? fun k => ?_
  rw [get?_ofList, lookup_reverse_eq_find? d.ascending]
  rfl

theorem get?_override [DecidableEq κ] (d later : Dict κ α) (k : κ) :
    (d.override later).get? k = (later.get? k).or (d.get? k) := by
  rw [override, get?_foldl_insert, lookup_reverse_eq_find? later.ascending]
  rfl

/-- Bindings made over a dictionary are bindings made apart, and then made over it. -/
theorem foldl_insert_eq_override [DecidableEq κ] (l : List (κ × α)) (d : Dict κ α) :
    l.foldl (fun d e => d.insert e.1 e.2) d = d.override (ofList l) := by
  refine ext_get? fun k => ?_
  rw [get?_foldl_insert, get?_override, get?_ofList]

/-! ## Values changed one by one -/

omit [Std.TransOrd κ] [Std.LawfulEqOrd κ]

/-- The same keys, each with its value changed. -/
def mapValues (d : Dict κ α) (f : α → α) : Dict κ α :=
  ⟨d.entries.map fun e => (e.1, f e.2), List.pairwise_map.mpr d.ascending⟩

theorem entries_mapValues (d : Dict κ α) (f : α → α) :
    (d.mapValues f).entries = d.entries.map fun e => (e.1, f e.2) := rfl

theorem mapValues_eq_self_iff {d : Dict κ α} {f : α → α} :
    d.mapValues f = d ↔ ∀ e ∈ d.entries, f e.2 = e.2 := by
  have hentries : d.mapValues f = d
      ↔ d.entries.map (fun e => (e.1, f e.2)) = d.entries.map id := by
    rw [List.map_id]
    constructor
    · exact congrArg entries
    · intro h
      exact ext h
  rw [hentries, List.map_inj_left]
  refine forall_congr' fun e => imp_congr_right fun _ => ?_
  exact ⟨congrArg Prod.snd, fun h => Prod.ext rfl h⟩

theorem keys_mapValues (d : Dict κ α) (f : α → α) :
    (d.mapValues f).toList.map (·.1) = d.toList.map (·.1) := by
  rw [toList, mapValues, List.map_map]
  rfl

end SocketStrategies.Dict
