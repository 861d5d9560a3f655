import SocketStrategies.Bytes

/-!
# Items to the end of the bytes

Some formats are lists of items, one after the other to the end of the bytes. An item stands for a
list of values, since it may be one that is to be skipped. Bytes that are no list of items are
items up to the first that is **broken**.

A reader of such a format is exact if it goes by single items: it reads an item in front of any
bytes and then these, it fails where an item is broken, and whatever is left starts with one or
the other. `ReadsItems` asks for that, and reading to the end is then what the items stand for, or
what is wrong with the broken one.
-/

namespace SocketStrategies

variable {α ε : Type}

/-- What makes a result succeed and what makes it fail tell all about it, if one of them
is always there. -/
theorem settled_of_total {result : Except ε α} {Good : α → Prop} {Bad : ε → Prop}
    (hgood : ∀ v, Good v → result = .ok v) (hbad : ∀ err, Bad err → result = .error err)
    (htotal : (∃ v, Good v) ∨ ∃ err, Bad err) :
    (∀ v, result = .ok v ↔ Good v) ∧ ∀ err, result = .error err ↔ Bad err := by
  rcases htotal with ⟨v, hv⟩ | ⟨err, herr⟩
  · have hresult := hgood v hv
    refine ⟨fun w => ⟨fun h => ?_, hgood w⟩, fun err => ⟨fun h => ?_, hbad err⟩⟩
    · rw [hresult] at h
      exact Except.ok.inj h ▸ hv
    · rw [hresult] at h
      cases h
  · have hresult := hbad err herr
    refine ⟨fun v => ⟨fun h => ?_, hgood v⟩, fun err' => ⟨fun h => ?_, hbad err'⟩⟩
    · rw [hresult] at h
      cases h
    · rw [hresult] at h
      exact Except.error.inj h ▸ herr

/-- Items one after the other, and the values that they stand for. -/
inductive ItemsOf (Item : Bytes → List α → Prop) : Bytes → List α → Prop where
  | nil : ItemsOf Item [] []
  | cons {f b : Bytes} {xs ys : List α} :
      Item f xs → ItemsOf Item b ys → ItemsOf Item (f ++ b) (xs ++ ys)

/-- What is wrong with the first item that is broken. -/
def FirstBroken (Item : Bytes → List α → Prop) (Broken : Bytes → ε → Prop) (b : Bytes)
    (err : ε) : Prop :=
  ∃ front xs back, b = front ++ back ∧ ItemsOf Item front xs ∧ Broken back err

/-- A reader that goes by single items. -/
structure ReadsItems (Item : Bytes → List α → Prop) (Broken : Bytes → ε → Prop)
    (read : Bytes → Except ε (List α)) : Prop where
  nil : read [] = .ok []
  /-- An item is read, and then what follows it. -/
  item : ∀ {f : Bytes} {xs : List α}, Item f xs →
    ∀ rest, read (f ++ rest) = (read rest).map (xs ++ ·)
  broken : ∀ {b : Bytes} {err : ε}, Broken b err → read b = .error err
  /-- Nothing is left over: bytes start with an item, or with one that is broken. -/
  starts : ∀ x b, (∃ f rest xs, x :: b = f ++ rest ∧ rest.length ≤ b.length ∧ Item f xs)
    ∨ ∃ err, Broken (x :: b) err

namespace ReadsItems

variable {Item : Bytes → List α → Prop} {Broken : Bytes → ε → Prop}
  {read : Bytes → Except ε (List α)}

/-- Items in front change nothing about what follows them: it is read after them, or fails as
it fails alone. -/
theorem append (hr : ReadsItems Item Broken read) {b : Bytes} {xs : List α} (h : ItemsOf Item b xs)
    (rest : Bytes) : read (b ++ rest) = (read rest).map (xs ++ ·) := by
  induction h with
  | nil =>
      rw [List.nil_append]
      cases read rest with
      | error err => rfl
      | ok ys => rfl
  | cons hf _ ih =>
      rw [List.append_assoc, hr.item hf, ih]
      cases read rest with
      | error err => rfl
      | ok ys => simp only [Except.map, List.append_assoc]

theorem of_itemsOf (hr : ReadsItems Item Broken read) {b : Bytes} {xs : List α}
    (h : ItemsOf Item b xs) : read b = .ok xs := by
  have happend := hr.append h []
  rw [List.append_nil, hr.nil, Except.map, List.append_nil] at happend
  exact happend

theorem of_firstBroken (hr : ReadsItems Item Broken read) {b : Bytes} {err : ε}
    (h : FirstBroken Item Broken b err) : read b = .error err := by
  obtain ⟨front, xs, back, rfl, hfront, hback⟩ := h
  rw [hr.append hfront, hr.broken hback]
  rfl

/-- Bytes are items to their end, or up to the first that is broken. -/
theorem itemsOf_or_firstBroken (hr : ReadsItems Item Broken read) (b : Bytes) :
    (∃ xs, ItemsOf Item b xs) ∨ ∃ err, FirstBroken Item Broken b err := by
  induction hn : b.length using Nat.strongRecOn generalizing b with
  | ind n ih =>
      cases b with
      | nil => exact Or.inl ⟨[], .nil⟩
      | cons x b =>
          rcases hr.starts x b with ⟨f, rest, xs, hsplit, hlen, hf⟩ | ⟨err, hbroken⟩
          · rw [List.length_cons] at hn
            rw [hsplit]
            rcases ih rest.length (by omega) rest rfl with
              ⟨ys, hys⟩ | ⟨err, front, ys, back, rfl, hfront, hback⟩
            · exact Or.inl ⟨_, .cons hf hys⟩
            · refine Or.inr ⟨err, f ++ front, _, back, ?_, .cons hf hfront, hback⟩
              rw [List.append_assoc]
          · exact Or.inr ⟨err, [], [], x :: b, rfl, .nil, hbroken⟩

theorem settled (hr : ReadsItems Item Broken read) (b : Bytes) :
    (∀ xs, read b = .ok xs ↔ ItemsOf Item b xs)
      ∧ ∀ err, read b = .error err ↔ FirstBroken Item Broken b err :=
  settled_of_total (fun _ => hr.of_itemsOf) (fun _ => hr.of_firstBroken)
    (hr.itemsOf_or_firstBroken b)

end ReadsItems

end SocketStrategies
