import SocketStrategies.Text.Basic

/-!
# What trimming leaves

Trimming takes characters of a class off the two ends of a text, and nothing else. What is left
is *bare*: it neither starts nor ends with one of them. Bare texts are exactly those that
trimming leaves alone.
-/

namespace SocketStrategies.Text

variable {p : Char → Bool} {cs : List Char}

/-- Whether a text starts with a character of a class. -/
def StartsWith (p : Char → Bool) (cs : List Char) : Prop := ∃ c rest, cs = c :: rest ∧ p c = true

/-- Whether a text ends with a character of a class. -/
def EndsWith (p : Char → Bool) (cs : List Char) : Prop := ∃ front c, cs = front ++ [c] ∧ p c = true

/-- Whether a text has no character of a class at either end. -/
def Bare (p : Char → Bool) (cs : List Char) : Prop := ¬ StartsWith p cs ∧ ¬ EndsWith p cs

/-! ## One end -/

theorem not_startsWith_nil : ¬ StartsWith p [] := by
  rintro ⟨c, rest, h, -⟩
  exact List.cons_ne_nil c rest h.symm

theorem startsWith_cons_iff {c : Char} {rest : List Char} :
    StartsWith p (c :: rest) ↔ p c = true := by
  constructor
  · rintro ⟨d, rest', h, hd⟩
    obtain ⟨rfl, rfl⟩ := List.cons.inj h
    exact hd
  · intro h
    exact ⟨c, rest, rfl, h⟩

theorem endsWith_iff_reverse : EndsWith p cs ↔ StartsWith p cs.reverse := by
  constructor
  · rintro ⟨front, c, rfl, hc⟩
    exact ⟨c, front.reverse, List.reverse_concat, hc⟩
  · rintro ⟨c, rest, h, hc⟩
    refine ⟨rest.reverse, c, ?_, hc⟩
    rw [← List.reverse_reverse cs, h, List.reverse_cons]

theorem exists_trimStart (p : Char → Bool) (cs : List Char) :
    ∃ front, cs = front ++ trimStart p cs ∧ ∀ c ∈ front, p c = true := by
  refine ⟨cs.takeWhile p, List.takeWhile_append_dropWhile.symm, fun c hc => ?_⟩
  exact List.all_eq_true.mp List.all_takeWhile c hc

theorem not_startsWith_trimStart (p : Char → Bool) (cs : List Char) :
    ¬ StartsWith p (trimStart p cs) := by
  induction cs with
  | nil => exact not_startsWith_nil
  | cons c rest ih =>
      unfold trimStart at ih ⊢
      rw [List.dropWhile_cons]
      cases hc : p c with
      | true => exact ih
      | false =>
          rw [if_neg Bool.false_ne_true, startsWith_cons_iff, hc]
          exact Bool.false_ne_true

theorem trimStart_of_not_startsWith (h : ¬ StartsWith p cs) : trimStart p cs = cs := by
  cases cs with
  | nil => rfl
  | cons c rest => rw [trimStart, List.dropWhile_cons, if_neg (mt startsWith_cons_iff.mpr h)]

theorem trimEnd_eq (p : Char → Bool) (cs : List Char) :
    trimEnd p cs = (trimStart p cs.reverse).reverse := rfl

theorem exists_trimEnd (p : Char → Bool) (cs : List Char) :
    ∃ back, cs = trimEnd p cs ++ back ∧ ∀ c ∈ back, p c = true := by
  obtain ⟨front, h, hfront⟩ := exists_trimStart p cs.reverse
  refine ⟨front.reverse, ?_, fun c hc => hfront c (List.mem_reverse.mp hc)⟩
  rw [trimEnd_eq, ← List.reverse_append, ← h, List.reverse_reverse]

theorem not_endsWith_trimEnd (p : Char → Bool) (cs : List Char) : ¬ EndsWith p (trimEnd p cs) := by
  rw [endsWith_iff_reverse, trimEnd_eq, List.reverse_reverse]
  exact not_startsWith_trimStart p cs.reverse

theorem trimEnd_of_not_endsWith (h : ¬ EndsWith p cs) : trimEnd p cs = cs := by
  rw [endsWith_iff_reverse] at h
  rw [trimEnd_eq, trimStart_of_not_startsWith h, List.reverse_reverse]

/-! ## Both ends -/

theorem StartsWith.append (h : StartsWith p cs) (back : List Char) :
    StartsWith p (cs ++ back) := by
  obtain ⟨c, rest, rfl, hc⟩ := h
  exact ⟨c, rest ++ back, rfl, hc⟩

theorem startsWith_append_iff (h : cs ≠ []) (back : List Char) :
    StartsWith p (cs ++ back) ↔ StartsWith p cs := by
  cases cs with
  | nil => exact absurd rfl h
  | cons c rest => rw [List.cons_append, startsWith_cons_iff, startsWith_cons_iff]

theorem endsWith_append_iff (h : cs ≠ []) (front : List Char) :
    EndsWith p (front ++ cs) ↔ EndsWith p cs := by
  have hr : cs.reverse ≠ [] := mt List.reverse_eq_nil_iff.mp h
  rw [endsWith_iff_reverse, endsWith_iff_reverse, List.reverse_append, startsWith_append_iff hr]

/-- Of two texts put together, the first one starts and the second one ends. -/
theorem bare_append_iff {a b : List Char} (ha : a ≠ []) (hb : b ≠ []) (between : List Char) :
    Bare p (a ++ (between ++ b)) ↔ ¬ StartsWith p a ∧ ¬ EndsWith p b := by
  have hne : between ++ b ≠ [] := fun h => hb (List.append_eq_nil_iff.mp h).2
  rw [Bare, startsWith_append_iff ha, endsWith_append_iff hne, endsWith_append_iff hb]

theorem exists_trimBoth (p : Char → Bool) (cs : List Char) :
    ∃ front back, cs = front ++ (trimBoth p cs ++ back) ∧ (∀ c ∈ front, p c = true)
      ∧ ∀ c ∈ back, p c = true := by
  obtain ⟨front, h, hfront⟩ := exists_trimStart p cs
  obtain ⟨back, h', hback⟩ := exists_trimEnd p (trimStart p cs)
  exact ⟨front, back, h.trans (congrArg (front ++ ·) h'), hfront, hback⟩

/-- A text without characters of a class has none at its ends. -/
theorem bare_of_forall (h : ∀ c ∈ cs, p c = false) : Bare p cs := by
  constructor
  · rintro ⟨c, rest, rfl, hc⟩
    rw [h c List.mem_cons_self] at hc
    cases hc
  · rintro ⟨front, c, rfl, hc⟩
    rw [h c (List.mem_append_right front List.mem_cons_self)] at hc
    cases hc

theorem bare_trimBoth (p : Char → Bool) (cs : List Char) : Bare p (trimBoth p cs) := by
  refine ⟨fun h => not_startsWith_trimStart p cs ?_, not_endsWith_trimEnd p _⟩
  -- what is taken off the back does not change how the text starts
  obtain ⟨back, h', -⟩ := exists_trimEnd p (trimStart p cs)
  rw [h']
  exact h.append back

theorem trimBoth_eq_self_iff : trimBoth p cs = cs ↔ Bare p cs := by
  constructor
  · intro h
    have hbare := bare_trimBoth p cs
    rw [h] at hbare
    exact hbare
  · rintro ⟨hstart, hend⟩
    rw [trimBoth, trimStart_of_not_startsWith hstart, trimEnd_of_not_endsWith hend]

theorem trimStart_append_of_all {front : List Char} (h : ∀ c ∈ front, p c = true)
    (cs : List Char) :
    trimStart p (front ++ cs) = trimStart p cs := List.dropWhile_append_of_pos h

theorem trimEnd_append_of_all {back : List Char} (h : ∀ c ∈ back, p c = true) (cs : List Char) :
    trimEnd p (cs ++ back) = trimEnd p cs := by
  have hr : ∀ c ∈ back.reverse, p c = true := fun c hc => h c (List.mem_reverse.mp hc)
  rw [trimEnd_eq, List.reverse_append, trimStart_append_of_all hr, trimEnd_eq]

theorem trimStart_of_all (h : ∀ c ∈ cs, p c = true) : trimStart p cs = [] := by
  have hempty := trimStart_append_of_all h []
  rw [List.append_nil] at hempty
  exact hempty

theorem trimEnd_of_all (h : ∀ c ∈ cs, p c = true) : trimEnd p cs = [] := by
  have hempty := trimEnd_append_of_all h []
  rw [List.nil_append] at hempty
  exact hempty

/-- What follows a bare text is safe from trimming at the front. -/
theorem trimStart_before_bare (h : Bare p cs) (hne : cs ≠ []) {front : List Char}
    (hfront : ∀ c ∈ front, p c = true) (back : List Char) :
    trimStart p (front ++ (cs ++ back)) = cs ++ back := by
  rw [trimStart_append_of_all hfront]
  exact trimStart_of_not_startsWith (mt (startsWith_append_iff hne back).mp h.1)

/-- What stands in front of a bare text is safe from trimming at the end. -/
theorem trimEnd_behind_bare (h : Bare p cs) (hne : cs ≠ []) {back : List Char}
    (hback : ∀ c ∈ back, p c = true) (front : List Char) :
    trimEnd p (front ++ (cs ++ back)) = front ++ cs := by
  rw [← List.append_assoc, trimEnd_append_of_all hback]
  exact trimEnd_of_not_endsWith (mt (endsWith_append_iff hne front).mp h.2)

/-- A text is made of characters of the class, or has a bare text between such characters. -/
theorem all_or_exists_bare (p : Char → Bool) (cs : List Char) :
    (∀ c ∈ cs, p c = true) ∨ ∃ front mid back, cs = front ++ (mid ++ back) ∧ Bare p mid ∧ mid ≠ []
      ∧ (∀ c ∈ front, p c = true) ∧ ∀ c ∈ back, p c = true := by
  obtain ⟨front, back, hcs, hfront, hback⟩ := exists_trimBoth p cs
  by_cases hmid : trimBoth p cs = []
  · left
    intro c hc
    rw [hcs, hmid, List.nil_append] at hc
    rcases List.mem_append.mp hc with hc | hc
    · exact hfront c hc
    · exact hback c hc
  · exact .inr ⟨front, _, back, hcs, bare_trimBoth p cs, hmid, hfront, hback⟩

/-- A bare text comes back from between characters of the class. -/
theorem trimBoth_of_bare (h : Bare p cs) {front back : List Char}
    (hfront : ∀ c ∈ front, p c = true)
    (hback : ∀ c ∈ back, p c = true) : trimBoth p (front ++ (cs ++ back)) = cs := by
  by_cases hne : cs = []
  · rw [hne, List.nil_append, trimBoth, trimStart_append_of_all hfront, trimStart_of_all hback]
    rfl
  · rw [trimBoth, trimStart_before_bare h hne hfront, ← List.nil_append (cs ++ back),
      trimEnd_behind_bare h hne hback, List.nil_append]

theorem trimBoth_eq_nil_iff : trimBoth p cs = [] ↔ ∀ c ∈ cs, p c = true := by
  constructor
  · intro h
    rcases all_or_exists_bare p cs with hall | ⟨front, mid, back, rfl, hbare, hne, hfront, hback⟩
    · exact hall
    · rw [trimBoth_of_bare hbare hfront hback] at h
      exact absurd h hne
  · intro h
    rw [trimBoth, trimStart_of_all h]
    rfl

theorem trimBoth_append_left {front : List Char} (h : ∀ c ∈ front, p c = true) (cs : List Char) :
    trimBoth p (front ++ cs) = trimBoth p cs := by
  rw [trimBoth, trimStart_append_of_all h, trimBoth]

theorem trimBoth_append_right {back : List Char} (h : ∀ c ∈ back, p c = true) (cs : List Char) :
    trimBoth p (cs ++ back) = trimBoth p cs := by
  obtain ⟨front, back', hcs, hfront, hback'⟩ := exists_trimBoth p cs
  have hall : ∀ c ∈ back' ++ back, p c = true := by
    intro c hc
    rcases List.mem_append.mp hc with hc | hc
    · exact hback' c hc
    · exact h c hc
  have happend : cs ++ back = front ++ (trimBoth p cs ++ (back' ++ back)) := by
    rw [← List.append_assoc _ back', ← List.append_assoc front, ← hcs]
  rw [happend]
  exact trimBoth_of_bare (bare_trimBoth p cs) hfront hall

/-- Trimming looks at no more than the class, so what keeps the class may be done before
it or after it. -/
theorem trimBoth_map {f : Char → Char} (hf : ∀ c, p (f c) = p c) (cs : List Char) :
    trimBoth p (cs.map f) = (trimBoth p cs).map f := by
  have hcomp : p ∘ f = p := funext hf
  rw [trimBoth, trimBoth, trimStart, trimStart, List.dropWhile_map, trimEnd, trimEnd,
    ← List.map_reverse, List.dropWhile_map, ← List.map_reverse, hcomp]

theorem infix_trimBoth (p : Char → Bool) (cs : List Char) : trimBoth p cs <:+: cs := by
  obtain ⟨front, back, h, -⟩ := exists_trimBoth p cs
  exact ⟨front, back, (List.append_assoc ..).trans h.symm⟩

theorem mem_of_mem_trimBoth {c : Char} (h : c ∈ trimBoth p cs) : c ∈ cs :=
  (infix_trimBoth p cs).subset h

end SocketStrategies.Text
