import SocketStrategies.Proofs.Connection.DataTrip
import SocketStrategies.Proofs.Connection.Plan
import SocketStrategies.Proofs.DataFormat
import SocketStrategies.Proofs.MediaType.Inclusion

/-!
# The default data format can be read

The default format is chosen by one rule, and decoders are asked by another: the choice takes the
first telling format of each decoder and strips it, while a decoder is able to read what is
compatible with any of its formats. The two meet at the format that was stripped. A format and its
bare form are of one format, and so they are compatible.

Whatever a decoder stands for is therefore something it is able to read. If there is a choice at
all, every decoder with a telling format stands for the format chosen, even one that advertises
others besides; and where no decoder has any, plain text is chosen, which those that advertise it
are able to read.
-/

namespace SocketStrategies

/-- The type of the values that a decoder makes. One that only declares formats makes none. -/
inductive Decoder.Makes : Decoder → PayloadType → Prop where
  | text (formats : TextFormats) : Makes (.text formats) (.schema .text)
  | raw (c : Container) : Makes (.raw c) (.raw c)
  | structured (wire : WireFormat) (s : Schema) (advertised : List MediaType) :
      Makes (.structured wire s advertised) (.schema s)

theorem Decoder.Makes.canDecode {d : Decoder} {t : PayloadType} (h : d.Makes t)
    {format : Option MediaType} (hformat : supports d.mediaTypes format = true) :
    d.canDecode t format = true := by
  cases h with
  | text formats =>
      rw [Decoder.canDecode, beq_self_eq_true, Bool.true_and]
      exact hformat
  | raw c => exact beq_self_eq_true _
  | structured wire s advertised =>
      rw [Decoder.canDecode, beq_self_eq_true, Bool.true_and]
      exact hformat

/-- What is of one format with something advertised is supported. -/
theorem supports_of_sameFormat {advertised : List MediaType} {f m : MediaType}
    (hf : f ∈ advertised) (h : f.sameFormat m = true) : supports advertised (some m) = true := by
  refine List.any_eq_true.mpr ⟨f, hf, ?_⟩
  rw [MediaType.isCompatible, MediaType.includes_of_sameFormat h, Bool.true_or]

namespace DataFormat

/-! ## The choice -/

theorem resolve_eq_ok_iff {ds : List Decoder} {m : MediaType} :
    resolve ds = .ok m ↔ represented ds = [m] ∨ represented ds = [] ∧ m = .textPlain := by
  rw [resolve_eq_verdict]
  rcases represented ds with _ | ⟨m', _ | ⟨m'', rest⟩⟩
  · simp [verdict, eq_comm]
  · simp [verdict]
  · simp [verdict]

/-- Whether a decoder advertises a concrete format besides plain text. -/
def Specific (d : Decoder) : Prop :=
  ∃ f ∈ d.mediaTypes, f.isConcrete = true ∧ f.sameFormat .textPlain = false

/-- Whether a decoder advertises plain text. -/
def TakesPlainText (d : Decoder) : Prop := ∃ f ∈ d.mediaTypes, f.sameFormat .textPlain = true

/-- Whether a decoder counts among others: it has a format to choose, or it has plain text and
no one has more. -/
inductive Counts (ds : List Decoder) (d : Decoder) : Prop where
  | specific : Specific d → Counts ds d
  | plainText : (∀ d' ∈ ds, ¬ Specific d') → TakesPlainText d → Counts ds d

/-- A decoder that has a format to choose stands for one of its formats. -/
theorem standsFor?_of_specific {d : Decoder} (h : Specific d) :
    ∃ f ∈ d.mediaTypes, standsFor? d = some f.bare := by
  obtain ⟨f, hf, hconcrete, hplain⟩ := h
  have htelling : Telling f := by
    by_contra hn
    rw [sameFormat_textPlain_of_not_telling hconcrete hn] at hplain
    cases hplain
  cases hfind : d.mediaTypes.find? fun m => Telling m with
  | none => exact absurd htelling (by simpa using List.find?_eq_none.mp hfind f hf)
  | some first => exact ⟨first, List.mem_of_find?_eq_some hfind, by rw [standsFor?, hfind]; rfl⟩

/-- Whatever is stood for comes from a concrete format of a decoder that has one to choose. -/
theorem specific_of_standsFor? {d : Decoder} {m : MediaType} (h : standsFor? d = some m) :
    Specific d ∧ ∃ f : MediaType, f.isConcrete = true ∧ m = f.bare := by
  obtain ⟨f, hfind, rfl⟩ := Option.map_eq_some_iff.mp h
  have htelling : Telling f :=
    of_decide_eq_true (List.find?_some (p := fun m : MediaType => decide (Telling m)) hfind)
  exact ⟨⟨f, List.mem_of_find?_eq_some hfind, htelling.1, htelling.2.1⟩, f, htelling.1, rfl⟩

theorem represented_eq_nil {ds : List Decoder} (h : ∀ d ∈ ds, ¬ Specific d) :
    represented ds = [] := by
  rw [List.eq_nil_iff_forall_not_mem]
  intro m hm
  obtain ⟨d, hd, hstands⟩ := mem_represented.mp hm
  exact h d hd (specific_of_standsFor? hstands).1

theorem folded_bare (f : MediaType) : f.bare.Folded := ⟨Text.lower_lower _, Text.lower_lower _⟩

/-- What is chosen is a plain name of a format: concrete, without parameters and in lower case. -/
theorem named_of_resolve {ds : List Decoder} {m : MediaType} (h : resolve ds = .ok m) :
    m.isConcrete = true ∧ m.parameters = .empty ∧ m.Folded := by
  rcases resolve_eq_ok_iff.mp h with hone | ⟨-, rfl⟩
  · obtain ⟨d, -, hstands⟩ := mem_represented.mp (hone ▸ List.mem_singleton_self m)
    obtain ⟨-, f, hconcrete, rfl⟩ := specific_of_standsFor? hstands
    refine ⟨?_, rfl, folded_bare f⟩
    rw [MediaType.isConcrete_congr (MediaType.sameFormat_bare f)]
    exact hconcrete
  · exact ⟨by decide +kernel, rfl, MediaType.folded_textPlain⟩

/-! ## Reading what was chosen -/

theorem supports_of_counts {ds : List Decoder} {m : MediaType} (h : resolve ds = .ok m)
    {d : Decoder}
    (hd : d ∈ ds) (hcounts : Counts ds d) : supports d.mediaTypes (some m) = true := by
  cases hcounts with
  | specific hspecific =>
      obtain ⟨f, hf, hstands⟩ := standsFor?_of_specific hspecific
      have hmem : f.bare ∈ represented ds := mem_represented.mpr ⟨d, hd, hstands⟩
      rcases resolve_eq_ok_iff.mp h with hone | ⟨hnone, -⟩
      · rw [hone, List.mem_singleton] at hmem
        subst hmem
        refine supports_of_sameFormat hf ?_
        rw [MediaType.sameFormat_comm]
        exact MediaType.sameFormat_bare f
      · rw [hnone] at hmem
        exact absurd hmem List.not_mem_nil
  | plainText hnone hplain =>
      obtain ⟨f, hf, hplain⟩ := hplain
      rcases resolve_eq_ok_iff.mp h with hone | ⟨-, rfl⟩
      · rw [represented_eq_nil hnone] at hone
        cases hone
      · exact supports_of_sameFormat hf hplain

end DataFormat

/-- Where no data format was given, a connection has the one that its decoders stand for. -/
theorem ConnectPlan.resolve_of_connected {κ τ : Type} {p : ConnectPlan}
    {transport : ConnectionSetup → Except τ κ} {a : Arena} {r : Requester κ}
    (hp : p.dataType = none) (h : (p.connect transport a).outcome = .ok r) :
    DataFormat.resolve (r.strategies.decoders.map (·.value)) = .ok r.dataType := by
  obtain ⟨calls, outcome, hcourse⟩ := exists_course p transport a
  obtain rfl : outcome = .ok r := (ends_connect_of_course hcourse).outcome.symm.trans h
  cases hcourse with
  | connected _ hsettled _ _ =>
      rcases hsettled with hgiven | ⟨-, hresolve⟩
      · rw [hp] at hgiven
        cases hgiven
      · exact hresolve

/-- A decoder that is able to keeps a requester from being without one. -/
theorem Requester.decodeData_ne_noDecoder {κ : Type} {r : Requester κ} {t : PayloadType}
    {d : Decoder}
    (hd : d ∈ r.strategies.decoders.map (·.value)) (hcan : d.canDecode t (some r.dataType) = true)
    (b : Bytes) (type : PayloadType) (format : MediaType) :
    r.decodeData t b ≠ .error (.noDecoder type format) := by
  cases hfind : findDecoder? (r.strategies.decoders.map (·.value)) t (some r.dataType) with
  | none => exact absurd hcan (List.find?_eq_none.mp hfind d hd)
  | some d' =>
      rw [decodeData_of_find hfind]
      exact mapError_codec_ne fun cause => by simp

namespace DataFormat

/--
**The default format can be read.** For every list of decoders, and whatever they advertise:

* the format that is chosen is concrete, has no parameters and is in lower case;
* a decoder with a concrete format besides plain text is able to make its values from the chosen
  format;
* if there is no such decoder, plain text is chosen, and those that advertise it are able to make
  their values from it;
* a requester that was connected without a data format has a decoder for what any of
  these decoders makes.
-/
theorem resolve_usable {κ τ : Type} (ds : List Decoder) :
    (∀ m, resolve ds = .ok m →
      (m.isConcrete = true ∧ m.parameters = .empty ∧ m.Folded)
      ∧ (∀ d ∈ ds, Specific d → ∀ t, d.Makes t → d.canDecode t (some m) = true)
      ∧ ((∀ d ∈ ds, ¬ Specific d) → m = .textPlain
          ∧ ∀ d ∈ ds, TakesPlainText d → ∀ t, d.Makes t → d.canDecode t (some m) = true))
    ∧ ∀ (p : ConnectPlan) (transport : ConnectionSetup → Except τ κ) (a : Arena) (r : Requester κ),
        p.dataType = none → (p.connect transport a).outcome = .ok r →
        r.strategies.decoders.map (·.value) = ds →
        ∀ d ∈ ds, Counts ds d → ∀ t, d.Makes t → ∀ b type format,
          r.decodeData t b ≠ .error (.noDecoder type format) := by
  refine ⟨fun m h => ⟨named_of_resolve h, ?_, ?_⟩, ?_⟩
  · intro d hd hspecific t hmakes
    exact hmakes.canDecode (supports_of_counts h hd (.specific hspecific))
  · intro hnone
    refine ⟨?_, fun d hd hplain t hmakes => ?_⟩
    · rcases resolve_eq_ok_iff.mp h with hone | ⟨-, hm⟩
      · rw [represented_eq_nil hnone] at hone
        cases hone
      · exact hm
    · exact hmakes.canDecode (supports_of_counts h hd (.plainText hnone hplain))
  · rintro p transport a r hp hr rfl d hd hcounts t hmakes b type format
    have hchosen := ConnectPlan.resolve_of_connected hp hr
    exact Requester.decodeData_ne_noDecoder hd
      (hmakes.canDecode (supports_of_counts hchosen hd hcounts)) b type format

/-! ### A format with capitals and a parameter -/

/-- A decoder of quotes whose first format only it has, in capitals and with a parameter,
and one of text. -/
def quotesAndText : Strategies :=
  { (Strategies.default .initial).1 with
    decoders :=
      [⟨1, .structured .json .quote [(MediaType.verbatim "A" "B+c").withParameter "v" "1", .xml]⟩,
        ⟨2, .text .all⟩] }

/-- A plan with these decoders and without a data format. -/
def unsettledPlan : ConnectPlan := { ConnectPlan.empty with strategies := some quotesAndText }

theorem resolve_quotesAndText :
    resolve (quotesAndText.decoders.map (·.value)) = .ok (.verbatim "a" "b+c") := by decide +kernel

theorem connect_unsettledPlan :
    ∃ r : Requester Unit, (unsettledPlan.connect (τ := Empty) (fun _ => .ok ()) .initial).outcome
      = .ok r
      ∧ r.strategies = quotesAndText := by
  have hfits : ConnectPlan.RouteFits unsettledPlan := by
    intro route hroute
    cases hroute
  have hcourse : ConnectPlan.Course (τ := Empty) unsettledPlan (fun _ => .ok ()) .initial _
      (.ok ⟨(), unsettledPlan.setup quotesAndText .default (.verbatim "a" "b+c"),
        quotesAndText⟩) :=
    .connected ⟨ConnectPlan.Assembled.asGiven rfl, Passes.nil⟩
      (Or.inr ⟨rfl, resolve_quotesAndText⟩) hfits rfl
  exact ⟨_, (ConnectPlan.ends_connect_of_course hcourse).outcome, rfl⟩

/-- Quotes are read in the bare form of the first format, and text in any. -/
theorem resolve_quotesAndText_usable :
    (Decoder.structured .json .quote
        [(MediaType.verbatim "A" "B+c").withParameter "v" "1", .xml]).canDecode (.schema .quote)
        (some (.verbatim "a" "b+c")) = true
      ∧ ∃ r : Requester Unit,
          (unsettledPlan.connect (τ := Empty) (fun _ => .ok ()) .initial).outcome = .ok r
          ∧ ∀ b type format, r.decodeData (.schema .quote) b
            ≠ .error (.noDecoder type format) := by
  have hspecific : Specific (.structured .json .quote
      [(MediaType.verbatim "A" "B+c").withParameter "v" "1", .xml]) :=
    ⟨_, List.mem_cons_self, by decide +kernel⟩
  obtain ⟨hchoice, hconnected⟩ :=
    resolve_usable (κ := Unit) (τ := Empty) (quotesAndText.decoders.map (·.value))
  obtain ⟨r, hr, hs⟩ := connect_unsettledPlan
  have hmem :
      (.structured .json .quote [(MediaType.verbatim "A" "B+c").withParameter "v" "1", .xml])
        ∈ quotesAndText.decoders.map (·.value) := List.mem_cons_self
  exact ⟨(hchoice _ resolve_quotesAndText).2.1 _ hmem hspecific _ (.structured ..),
    r, hr, hconnected _ _ _ r rfl hr (by rw [hs]) _ hmem (.specific hspecific) _ (.structured ..)⟩

end DataFormat

end SocketStrategies
