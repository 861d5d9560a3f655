import SocketStrategies.Proofs.Address.Locator

/-!
# How IPv6 addresses are written

The canonical form of an address is made of the hexadecimal digits of its groups, with colons
between them. There is always a colon: between two of the eight groups, or the two that stand
for a run of zeros.
-/

namespace SocketStrategies.Ipv6

theorem toList_renderGroups (gs : List UInt16) :
    (renderGroups gs).toList = [':'].intercalate (gs.map fun g => Nat.toDigits 16 g.toNat) := by
  have hdigits : String.toList ∘ (fun g : UInt16 => String.ofList (Nat.toDigits 16 g.toNat))
      = fun g => Nat.toDigits 16 g.toNat := by
    funext g
    exact String.toList_ofList
  rw [renderGroups, String.toList_intercalate, List.map_map, hdigits]
  rfl

theorem toList_renderGroups_singleton (g : UInt16) :
    (renderGroups [g]).toList = Nat.toDigits 16 g.toNat := by
  rw [toList_renderGroups]
  exact List.append_nil _

theorem toList_renderGroups_cons (g h : UInt16) (gs : List UInt16) :
    (renderGroups (g :: h :: gs)).toList
      = Nat.toDigits 16 g.toNat ++ ':' :: (renderGroups (h :: gs)).toList := by
  rw [toList_renderGroups, toList_renderGroups]
  rfl

theorem colon_mem_render (x : Ipv6) : ':' ∈ x.render.toList := by
  unfold render
  dsimp only
  split
  · -- eight groups are more than one
    obtain ⟨groups, hlength⟩ := x
    obtain ⟨g, rest, rfl⟩ := List.exists_cons_of_length_eq_add_one hlength
    obtain ⟨h, gs, rfl⟩ := List.exists_cons_of_length_eq_add_one (Nat.succ.inj hlength)
    rw [toList_renderGroups_cons]
    exact List.mem_append_right _ List.mem_cons_self
  · rw [String.toList_append, String.toList_append]
    refine List.mem_append_left _ (List.mem_append_right _ ?_)
    decide

end SocketStrategies.Ipv6
