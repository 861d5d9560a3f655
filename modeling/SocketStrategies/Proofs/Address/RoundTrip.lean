import SocketStrategies.Address.ConnectAddress
import SocketStrategies.Proofs.Address.Spelling

/-!
# Reading a connect address that was written

An address is written as a locator of its scheme, its host and its port. Where the host is a name,
the text is read back as the address. Where it is an IPv6 address, the brackets were lost in
reading: the text then has a colon too many, the first of them is taken for the one in front of
the port, and the text is refused.

`render_parses_unless_ipv6` is the main result.
-/

namespace SocketStrategies.ConnectAddress

variable {a : ConnectAddress}

/-! ## Texts of addresses -/

/-- The digits that a written address ends with. -/
def portDigits (a : ConnectAddress) : List Char := Nat.toDigits 10 a.port.toNat

theorem kept_of_mem_portDigits {c : Char} (h : c ∈ a.portDigits) : Locator.Kept c :=
  Locator.kept_of_mem_toDigits (by decide) (by decide) h

theorem toList_render (a : ConnectAddress) :
    a.render.toList = "tcp://".toList ++ (a.host.toList ++ ':' :: a.portDigits) := by
  obtain ⟨scheme, host, port⟩ := a
  cases scheme
  simp only [render, TransportScheme.name, hostPort, HostPort.render, portDigits,
    String.toList_append, Nat.toString_eq_ofList_toDigits, String.toList_ofList, List.append_assoc]
  rfl

/-- A written address is read by the authority that it names. -/
theorem parse?_render (hvisible : ∀ c ∈ a.host.toList, 32 < c.toNat) :
    Locator.parse? a.render
      = Locator.authority? "tcp" none (a.host.toList ++ ':' :: a.portDigits) := by
  have hall : ∀ c ∈ a.render.toList, 32 < c.toNat := by
    intro c hc
    rw [toList_render] at hc
    rcases List.mem_append.mp hc with hc | hc
    · have hstart : ∀ c ∈ ['t', 'c', 'p', ':', '/', '/'], 32 < c.toNat := by simp
      exact hstart c hc
    · rcases List.mem_append.mp hc with hc | hc
      · exact hvisible c hc
      · rcases List.mem_cons.mp hc with rfl | hc
        · decide
        · exact (kept_of_mem_portDigits hc).visible
  unfold Locator.parse?
  rw [Locator.clean_eq_self hall, toList_render]
  rfl

/-! ## Reading -/

/-- What an address was read from. -/
theorem parse_eq_ok {s : String} (h : parse s = .ok a) :
    ∃ l host, Locator.parse? s = some l ∧ l.scheme = "tcp" ∧ l.host = some host
      ∧ a.host = host.text := by
  unfold parse at h
  split at h
  · cases h
  · rename_i l hl
    split at h
    · cases h
    · cases h
    · cases h
    · rename_i scheme port host hscheme hport hhost
      refine ⟨l, host, hl, ?_, hhost, ?_⟩
      · unfold TransportScheme.ofName? at hscheme
        split at hscheme
        · rename_i heq
          exact eq_of_beq heq
        · cases hscheme
      · rw [← Except.ok.inj h]

theorem parse_of_parse?_eq_none {s : String} (h : Locator.parse? s = none) :
    parse s = .error (.wrongFormat s) := by
  rw [parse, h]

/-- An address whose host is a name is read back. -/
theorem parse_render_of_kept (hne : a.host.toList ≠ [])
    (hkept : ∀ c ∈ a.host.toList, Locator.Kept c) :
    parse a.render = .ok a := by
  have hat : '@' ∉ a.portDigits :=
    fun hmem => (kept_of_mem_portDigits hmem).ne (d := '@') (by decide) rfl
  have hread : Locator.parse? a.render = some ⟨"tcp", some (.name a.host), some a.port⟩ := by
    rw [parse?_render fun c hc => (hkept c hc).visible,
      Locator.authority?_append_colon "tcp" hkept hne hat,
      portDigits, Locator.port?_toDigits, String.ofList_toList]
    rfl
  obtain ⟨scheme, host, port⟩ := a
  cases scheme
  rw [parse, hread]
  rfl

/-- An address whose host is an IPv6 address is not read back. -/
theorem parse_render_of_ipv6 {x : Ipv6} (hhost : a.host = x.render) :
    parse a.render = .error (.wrongFormat a.render) := by
  have hchars : ∀ c ∈ a.host.toList, c = ':' ∨ Locator.Kept c := by
    rw [hhost]
    exact fun c hc => (Ipv6.spells_render x).colon_or_kept hc
  have hvisible : ∀ c ∈ a.host.toList, 32 < c.toNat := by
    intro c hc
    rcases hchars c hc with rfl | hkept
    · decide
    · exact hkept.visible
  apply parse_of_parse?_eq_none
  rw [parse?_render hvisible]
  -- the host ends before its first colon, and the rest of it is no port
  obtain ⟨front, back, hsplit, hfirst⟩ :=
    List.eq_append_cons_of_mem (hhost ▸ Ipv6.colon_mem_render x : ':' ∈ a.host.toList)
  have hfront : ∀ c ∈ front, Locator.Kept c := by
    intro c hc
    rcases hchars c (hsplit ▸ List.mem_append_left _ hc) with rfl | hkept
    · exact absurd hc hfirst
    · exact hkept
  have hrest : ∀ c ∈ back ++ ':' :: a.portDigits, c = ':' ∨ Locator.Kept c := by
    intro c hc
    rcases List.mem_append.mp hc with hc | hc
    · exact hchars c (hsplit ▸ List.mem_append_right _ (List.mem_cons_of_mem ':' hc))
    · rcases List.mem_cons.mp hc with hc | hc
      · exact .inl hc
      · exact .inr (kept_of_mem_portDigits hc)
  have hat : '@' ∉ back ++ ':' :: a.portDigits := by
    intro hmem
    rcases hrest '@' hmem with h | h
    · exact absurd h (by decide)
    · exact h.ne (d := '@') (by decide) rfl
  have hport : Locator.port? (back ++ ':' :: a.portDigits) = none := by
    refine Locator.port?_eq_none ?_ ⟨':', List.mem_append_right _ List.mem_cons_self, by decide⟩
    intro c hc
    rcases hrest c hc with rfl | hkept
    · decide
    · exact hkept.not_endsAuthority true
  rw [hsplit, List.append_assoc, List.cons_append]
  by_cases hempty : front = []
  · rw [hempty, List.nil_append]
    exact Locator.authority?_colon "tcp" hat
  · rw [Locator.authority?_append_colon "tcp" hfront hempty hat, hport]
    rfl

/-! ## Main result -/

/-- Whether a text names an IPv6 address as the host to connect to. -/
def NamesIpv6 (s : String) : Prop := ∃ l x, Locator.parse? s = some l ∧ l.host = some (.ipv6 x)

/-- Written again, an address is read back if and only if its text does not name an IPv6 address.
If it does, what is written is refused as no address at all. -/
theorem render_parses_unless_ipv6 {s : String} (h : parse s = .ok a) :
    (¬ NamesIpv6 s → parse a.render = .ok a)
      ∧ (NamesIpv6 s → parse a.render = .error (.wrongFormat a.render)) := by
  obtain ⟨l, host, hread, hscheme, hhost, htext⟩ := parse_eq_ok h
  have hplain : Locator.kindOf l.scheme = .plain := by
    rw [hscheme]
    decide
  cases Locator.plainHost_of_parse? hread hplain hhost with
  | name hne hkept =>
      rw [Host.text] at htext
      rw [← htext] at hne hkept
      constructor
      · intro _
        exact parse_render_of_kept hne hkept
      · rintro ⟨l', x, hread', hhost'⟩
        rw [hread] at hread'
        obtain rfl := Option.some.inj hread'
        rw [hhost] at hhost'
        cases hhost'
  | ipv6 x =>
      constructor
      · intro hnames
        exact absurd ⟨l, x, hread, hhost⟩ hnames
      · intro _
        exact parse_render_of_ipv6 htext

/-- A name comes back, and the loopback address of IPv6 does not. -/
theorem render_of_localhost_and_loopback :
    parse "tcp://localhost:7000" = .ok (tcp "localhost" 7000)
      ∧ parse (tcp "localhost" 7000).render = .ok (tcp "localhost" 7000)
      ∧ parse "tcp://[::1]:7000" = .ok (tcp "::1" 7000)
      ∧ parse (tcp "::1" 7000).render = .error (.wrongFormat "tcp://::1:7000") := by
  have hname : parse "tcp://localhost:7000" = .ok (tcp "localhost" 7000) := rfl
  have hloopback : parse "tcp://[::1]:7000" = .ok (tcp "::1" 7000) := rfl
  have hnot : ¬ NamesIpv6 "tcp://localhost:7000" := by
    rintro ⟨l, x, hread, hhost⟩
    have hl : Locator.parse? "tcp://localhost:7000"
        = some ⟨"tcp", some (.name "localhost"), some 7000⟩ := rfl
    rw [hl] at hread
    rw [← Option.some.inj hread] at hhost
    cases hhost
  have hnames : NamesIpv6 "tcp://[::1]:7000" :=
    ⟨⟨"tcp", some (.ipv6 ⟨[0, 0, 0, 0, 0, 0, 0, 1], rfl⟩), some 7000⟩, _, rfl, rfl⟩
  exact ⟨hname, (render_parses_unless_ipv6 hname).1 hnot, hloopback,
    (render_parses_unless_ipv6 hloopback).2 hnames⟩

/-- Not every address that is read can be read again from what is written for it. -/
theorem not_all_render_parse : ¬ ∀ s a, parse s = .ok a → parse a.render = .ok a := by
  intro hall
  have hagain := hall "tcp://[::1]:7000" (tcp "::1" 7000) rfl
  have hrefused : parse (tcp "::1" 7000).render = .error (.wrongFormat "tcp://::1:7000") := rfl
  rw [hrefused] at hagain
  cases hagain

end SocketStrategies.ConnectAddress
