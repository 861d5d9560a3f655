import SocketStrategies.Address.Resolution
import SocketStrategies.Proofs.Address.RoundTrip

/-!
# IP literals on their way to the resolver

An IP address may stand in a connect address as the host, an IPv6 address in brackets. Reading the
connect address puts an IPv6 address into its canonical form and takes the brackets off; the
resolver reads the host once more. Both readers have the same spellings, and the canonical form is
among them, so the address that arrives is the one that was written. It cannot be taken for an
IPv4 address on the way, for which a colon would have to stand in a dotted text.

`literal_reaches_resolver` is the main result.
-/

namespace SocketStrategies

namespace IpAddress

/-! ## Kinds of addresses -/

/-- The addresses that mean none in particular. -/
inductive Unspecified : IpAddress → Prop where
  | v4 : Unspecified (.v4 ⟨0, 0, 0, 0⟩)
  | v6 {x : Ipv6} : x.groups = List.replicate 8 0 → Unspecified (.v6 x)

/-- The addresses of groups: `224.0.0.0` and the next fifteen blocks, and all that start with
`ff`. -/
inductive Multicast : IpAddress → Prop where
  | v4 {x : Ipv4} : x.a.toNat / 16 = 14 → Multicast (.v4 x)
  | v6 {x : Ipv6} {g : UInt16} {gs : List UInt16} :
      x.groups = g :: gs → g.toNat / 256 = 255 → Multicast (.v6 x)

theorem unspecified_v4_iff {x : Ipv4} : (IpAddress.v4 x).Unspecified ↔ x.isUnspecified = true := by
  rw [Ipv4.isUnspecified, beq_iff_eq]
  constructor
  · intro h
    cases h
    rfl
  · rintro rfl
    exact .v4

theorem multicast_v4_iff {x : Ipv4} : (IpAddress.v4 x).Multicast ↔ x.isMulticast = true := by
  have hbounds : x.isMulticast = true ↔ 224 ≤ x.a.toNat ∧ x.a.toNat ≤ 239 := by
    rw [Ipv4.isMulticast, Bool.and_eq_true, decide_eq_true_eq, decide_eq_true_eq]
    rfl
  rw [hbounds]
  constructor
  · rintro ⟨h⟩
    omega
  · intro h
    exact .v4 (by omega)

theorem unspecified_v6_iff {x : Ipv6} : (IpAddress.v6 x).Unspecified ↔ x.isUnspecified = true := by
  have hzero : x.isUnspecified = true ↔ x.groups = List.replicate 8 0 := by
    rw [Ipv6.isUnspecified, List.all_eq_true, List.eq_replicate_iff]
    simp only [beq_iff_eq, x.length_eq, true_and]
  rw [hzero]
  constructor
  · intro h
    cases h with
    | v6 h => exact h
  · exact .v6

theorem multicast_v6_iff {x : Ipv6} : (IpAddress.v6 x).Multicast ↔ x.isMulticast = true := by
  obtain ⟨g, gs, hx⟩ := List.exists_cons_of_length_eq_add_one x.length_eq
  have hbound : x.isMulticast = true ↔ 65280 ≤ g.toNat := by
    rw [Ipv6.isMulticast, hx]
    dsimp only
    rw [decide_eq_true_eq]
    rfl
  have hlt := g.toNat_lt
  rw [hbound]
  constructor
  · intro h
    cases h with
    | v6 hx' hg =>
        rw [hx] at hx'
        cases hx'
        omega
  · intro h
    exact .v6 hx (by omega)

/-- A client can connect to every other address. -/
theorem isUsable_iff (ip : IpAddress) :
    ip.isUsable = true ↔ ¬ (ip.Unspecified ∨ ip.Multicast) := by
  cases ip with
  | v4 x =>
      rw [unspecified_v4_iff, multicast_v4_iff, isUsable]
      cases x.isMulticast <;> cases x.isUnspecified <;> decide
  | v6 x =>
      rw [unspecified_v6_iff, multicast_v6_iff, isUsable]
      cases x.isMulticast <;> cases x.isUnspecified <;> decide

/-! ## Reading hosts -/

theorem ofChars?_render_v4 (x : Ipv4) : ofChars? x.render.toList = some (.v4 x) := by
  rw [ofChars?, Ipv4.ofChars?_eq_some_iff.mpr rfl]

theorem ofChars?_render_v6 (x : Ipv6) : ofChars? x.render.toList = some (.v6 x) := by
  have hnone : Ipv4.ofChars? x.render.toList = none := by
    cases hread : Ipv4.ofChars? x.render.toList with
    | none => rfl
    | some q =>
        have hcolon := Ipv6.colon_mem_render x
        rw [Ipv4.ofChars?_eq_some_iff.mp hread] at hcolon
        exact absurd hcolon q.colon_not_mem_render
  rw [ofChars?, hnone]
  dsimp only
  rw [Ipv6.ofChars?_render]
  rfl

end IpAddress

/-! ## Hosts in brackets -/

namespace Locator

/-- A text with brackets around it. -/
def inBrackets (cs : List Char) : List Char := '[' :: (cs ++ [']'])

variable {cs : List Char}

/-- A colon does not end a host within brackets. -/
theorem splitHost_inside {special : Bool} (h : ∀ c ∈ cs, c = ':' ∨ Kept c) (rest : List Char) :
    splitHost special true (cs ++ [']'] ++ ':' :: rest) = (cs ++ [']'], ':' :: rest) := by
  induction cs with
  | nil => cases special <;> rfl
  | cons c cs ih =>
      obtain ⟨hc, hcs⟩ := List.forall_mem_cons.mp h
      have hopen : endsAuthority special c = false := by
        rcases hc with rfl | hkept
        · cases special <;> rfl
        · exact hkept.not_endsAuthority special
      have hclosing : (c == ']') = false := by
        rw [beq_eq_false_iff_ne]
        rcases hc with rfl | hkept
        · decide
        · exact hkept.ne (by decide)
      simp only [List.cons_append, splitHost, Bool.not_true, Bool.and_false, hopen, Bool.or_false,
        Bool.false_eq_true, if_false, hclosing, ite_self, ih hcs]

theorem splitHost_inBrackets {special : Bool} (h : ∀ c ∈ cs, c = ':' ∨ Kept c) (rest : List Char) :
    splitHost special false (inBrackets cs ++ ':' :: rest) = (inBrackets cs, ':' :: rest) := by
  have hopen : endsAuthority special '[' = false := by cases special <;> rfl
  have hcolon : ('[' == ':') = false := by decide
  simp only [inBrackets, List.cons_append, splitHost, hcolon, hopen, Bool.false_and, Bool.or_false,
    Bool.false_eq_true, if_false, beq_self_eq_true, if_true, splitHost_inside h]

theorem plainHost?_inBrackets (cs : List Char) :
    plainHost? (inBrackets cs) = (Ipv6.ofChars? cs).map .ipv6 := by
  rw [inBrackets, plainHost?, bracketed?, List.reverse_append, List.reverse_singleton,
    List.singleton_append]
  exact congrArg (fun cs => (Ipv6.ofChars? cs).map Host.ipv6) (List.reverse_reverse cs)

/-- What stands in brackets is taken for an address if and only if it is one of its spellings. -/
theorem plainHost?_inBrackets_iff {x : Ipv6} :
    plainHost? (inBrackets cs) = some (.ipv6 x) ↔ x.Spells cs := by
  rw [plainHost?_inBrackets, ← Ipv6.ofChars?_eq_some_iff]
  constructor
  · intro h
    obtain ⟨y, hy, heq⟩ := Option.map_eq_some_iff.mp h
    cases heq
    exact hy
  · intro h
    rw [h]
    rfl

theorem visible_of_mem_inBrackets {x : Ipv6} (h : x.Spells cs) {c : Char}
    (hc : c ∈ inBrackets cs) :
    32 < c.toNat ∧ c ≠ '@' := by
  rcases List.mem_cons.mp hc with rfl | hc
  · decide
  · rcases List.mem_append.mp hc with hc | hc
    · rcases h.colon_or_kept hc with rfl | hkept
      · decide
      · exact ⟨hkept.visible, hkept.ne (by decide)⟩
    · rw [List.mem_singleton.mp hc]
      decide

/-- An address in brackets and a port behind its colon. -/
theorem authority?_inBrackets (scheme : String) {x : Ipv6} {rest : List Char} (h : x.Spells cs)
    (hat : '@' ∉ rest) :
    authority? scheme none (inBrackets cs ++ ':' :: rest)
      = (port? rest).map fun port => ⟨scheme, some (.ipv6 x), port⟩ := by
  have hchars : ∀ c ∈ cs, c = ':' ∨ Kept c := fun c hc => h.colon_or_kept hc
  have hfree : '@' ∉ inBrackets cs ++ ':' :: rest := by
    intro hmem
    rcases List.mem_append.mp hmem with hmem | hmem
    · exact (visible_of_mem_inBrackets h hmem).2 rfl
    · rcases List.mem_cons.mp hmem with hmem | hmem
      · exact absurd hmem (by decide)
      · exact hat hmem
  have hfull : (inBrackets cs).isEmpty = false := rfl
  unfold authority?
  simp only [credentials?_of_not_mem hfree, splitHost_inBrackets hchars,
    plainHost?_inBrackets_iff.mpr h, hfull, Option.isSome_none, Option.bind_eq_bind,
    Option.bind_some, Bool.false_eq_true, if_false]
  cases port? rest with
  | none => rfl
  | some port => cases port <;> rfl

end Locator

/-! ## From the text to the resolver -/

/-- How an address is written as the host of a connect address. -/
inductive IpAddress.WrittenAs : IpAddress → List Char → Prop where
  | v4 (x : Ipv4) : WrittenAs (.v4 x) x.render.toList
  | v6 {x : Ipv6} {cs : List Char} : x.Spells cs → WrittenAs (.v6 x) (Locator.inBrackets cs)

namespace ConnectAddress

/-- A text with a spelling in brackets gives the canonical form of the address. -/
theorem parse_inBrackets {x : Ipv6} {host : String} {cs : List Char}
    (hhost : host.toList = Locator.inBrackets cs) (h : x.Spells cs) (p : UInt16) :
    parse (tcp host p).render = .ok (tcp x.render p) := by
  have hvisible : ∀ c ∈ (tcp host p).host.toList, 32 < c.toNat := by
    intro c hc
    change c ∈ host.toList at hc
    rw [hhost] at hc
    exact (Locator.visible_of_mem_inBrackets h hc).1
  have hat : '@' ∉ (tcp host p).portDigits :=
    fun hmem => (kept_of_mem_portDigits hmem).ne (d := '@') (by decide) rfl
  have hread : Locator.parse? (tcp host p).render = some ⟨"tcp", some (.ipv6 x), some p⟩ := by
    rw [parse?_render hvisible]
    change Locator.authority? "tcp" none (host.toList ++ ':' :: (tcp host p).portDigits) = _
    rw [hhost, Locator.authority?_inBrackets "tcp" h hat, portDigits, tcp, Locator.port?_toDigits]
    rfl
  rw [parse, hread]
  rfl

theorem render_tcp (host : String) (p : UInt16) :
    (tcp host p).render = "tcp://" ++ host ++ ":" ++ toString p.toNat := by
  rw [← String.toList_inj, toList_render]
  simp only [String.toList_append, Nat.toString_eq_ofList_toDigits, String.toList_ofList,
    List.append_assoc]
  rfl

/-- A text that names an IP address gives a host that is read as the address. -/
theorem exists_parse_of_writtenAs {ip : IpAddress} {host : String} (h : ip.WrittenAs host.toList)
    (p : UInt16) :
    ∃ a, parse (tcp host p).render = .ok a ∧ a.port = p
      ∧ IpAddress.ofChars? a.host.toList = some ip := by
  generalize hcs : host.toList = cs at h
  cases h with
  | v4 x =>
      obtain rfl : host = x.render := String.toList_inj.mp hcs
      refine ⟨_, parse_render_of_kept x.render_ne_nil ?_, rfl, IpAddress.ofChars?_render_v4 x⟩
      exact fun c hc => Ipv4.kept_of_mem_render hc
  | v6 hspells => exact ⟨_, parse_inBrackets hcs hspells p, rfl, IpAddress.ofChars?_render_v6 _⟩

end ConnectAddress

namespace Resolution

theorem choose?_singleton (ip : IpAddress) :
    choose? [ip] = if ip.isUsable then some ip else none := by
  unfold choose?
  cases husable : ip.isUsable with
  | true =>
      rw [List.filter_cons_of_pos husable]
      cases ip <;> rfl
  | false =>
      rw [List.filter_cons_of_neg (Bool.eq_false_iff.mp husable)]
      rfl

/-- A literal is resolved to its address, or to nothing where that is of no use. -/
theorem resolve_of_ofChars? {a : HostPort} {ip : IpAddress}
    (h : IpAddress.ofChars? a.host.toList = some ip) :
    resolve a = if ip.isUsable then .ok ⟨ip, a.port⟩ else .error (.notFound a) := by
  rw [resolve, lookup?, h, Option.map_some]
  dsimp only
  rw [choose?_singleton]
  cases ip.isUsable <;> rfl

/--
**An IP literal reaches the resolver as the address that it spells.** The host of a connect
address is written as an IPv4 address in its dotted form, or as any spelling of an IPv6 address in
brackets; and a spelling is whatever in brackets is taken for the address. Then the text is read,
and what the resolver makes of the host and the port that come of it is exactly the address with
the port. Only for an unspecified address and for the address of a group it finds none.
-/
theorem literal_reaches_resolver :
    (∀ (x : Ipv6) (cs : List Char), Locator.plainHost? (Locator.inBrackets cs) = some (.ipv6 x)
      ↔ x.Spells cs)
    ∧ ∀ (ip : IpAddress) (host : String) (p : UInt16), ip.WrittenAs host.toList →
      ∃ a, ConnectAddress.parse ("tcp://" ++ host ++ ":" ++ toString p.toNat) = .ok a
        ∧ (¬ (ip.Unspecified ∨ ip.Multicast) → resolve a.hostPort = .ok ⟨ip, p⟩)
        ∧ (ip.Unspecified ∨ ip.Multicast →
            resolve a.hostPort = .error (.notFound a.hostPort)) := by
  refine ⟨fun x cs => Locator.plainHost?_inBrackets_iff, fun ip host p hwritten => ?_⟩
  obtain ⟨a, hparse, rfl, hread⟩ := ConnectAddress.exists_parse_of_writtenAs hwritten p
  have hresolve := resolve_of_ofChars? (a := a.hostPort) hread
  rw [ConnectAddress.render_tcp] at hparse
  refine ⟨a, hparse, fun huseful => ?_, fun huseless => ?_⟩
  · rw [hresolve, if_pos (ip.isUsable_iff.mpr huseful)]
    rfl
  · rw [hresolve, if_neg (mt ip.isUsable_iff.mp (not_not_intro huseless))]

/-- An address in large letters with an IPv4 address at its end, one of a group, and one of four
bytes. -/
theorem literals_reach_resolver :
    (∃ a, ConnectAddress.parse "tcp://[2001:DB8::192.0.2.33]:7000" = .ok a
        ∧ resolve a.hostPort = .ok ⟨.v6 ⟨[0x2001, 0xDB8, 0, 0, 0, 0, 0xC000, 0x221], rfl⟩, 7000⟩)
      ∧ (∃ a, ConnectAddress.parse "tcp://[FF02::1]:7000" = .ok a
        ∧ resolve a.hostPort = .error (.notFound a.hostPort))
      ∧ ∃ a, ConnectAddress.parse "tcp://127.0.0.1:7000" = .ok a
        ∧ resolve a.hostPort = .ok ⟨.v4 ⟨127, 0, 0, 1⟩, 7000⟩ := by
  obtain ⟨hspelling, hliteral⟩ := literal_reaches_resolver
  refine ⟨?_, ?_, ?_⟩
  · have hspells :=
      (hspelling ⟨[0x2001, 0xDB8, 0, 0, 0, 0, 0xC000, 0x221], rfl⟩
        "2001:DB8::192.0.2.33".toList).mp rfl
    obtain ⟨a, hparse, huseful, -⟩ := hliteral _ "[2001:DB8::192.0.2.33]" 7000 (.v6 hspells)
    exact ⟨a, hparse, huseful ((IpAddress.isUsable_iff _).mp rfl)⟩
  · have hspells := (hspelling ⟨[0xFF02, 0, 0, 0, 0, 0, 0, 1], rfl⟩ "FF02::1".toList).mp rfl
    obtain ⟨a, hparse, -, huseless⟩ := hliteral _ "[FF02::1]" 7000 (.v6 hspells)
    exact ⟨a, hparse, huseless (.inr (.v6 rfl rfl))⟩
  · obtain ⟨a, hparse, huseful, -⟩ := hliteral _ "127.0.0.1" 7000 (.v4 ⟨127, 0, 0, 1⟩)
    exact ⟨a, hparse, huseful ((IpAddress.isUsable_iff _).mp rfl)⟩

end Resolution

end SocketStrategies
