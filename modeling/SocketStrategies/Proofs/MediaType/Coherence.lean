import SocketStrategies.Metadata.Composite
import SocketStrategies.Proofs.DataFormat
import SocketStrategies.Proofs.MediaType.Fingerprint
import SocketStrategies.Proofs.MediaType.Inclusion

/-!
# One equality for everything

Media types are compared in several ways: by equivalence, by what they are hashed from, by their
answers to the questions that the library asks of them, and by what they print as. This file says
that all of these are coherent.

Equivalence is that of the fingerprints, and no answer tells equivalent media types apart.
Printing does, where one of the two is in capitals. But whatever was read is in lower case and has
its separators in the right places, so its parts can be found again in what it prints as: among
media types that were read, those that print alike are equal.
-/

namespace SocketStrategies.MediaType

variable {a a' b b' : MediaType}

/-! ## Answers -/

theorem equivalence_equivalent : Equivalence fun a b : MediaType => a.equivalent b = true :=
  ⟨equivalent_refl, equivalent_symm, equivalent_trans⟩

theorem sameFormat_of_equivalent (h : a.equivalent b = true) : a.sameFormat b = true :=
  (equivalent_iff.mp h).1

/-- Formats are the same if they agree in their bare forms. -/
theorem sameFormat_congr₂ (ha : a.sameFormat a' = true) (hb : b.sameFormat b' = true) :
    a.sameFormat b = a'.sameFormat b' := by
  rw [sameFormat_congr ha, sameFormat_comm a' b, sameFormat_congr hb, sameFormat_comm b' a']

/-- Whether one media type includes another hangs on their formats alone. -/
theorem includes_congr (ha : a.sameFormat a' = true) (hb : b.sameFormat b' = true) :
    a.includes b = a'.includes b' := by
  obtain ⟨hmain, hsub⟩ := sameFormat_iff_folded.mp ha
  obtain ⟨hmain', hsub'⟩ := sameFormat_iff_folded.mp hb
  rw [Bool.eq_iff_iff, includes_iff, includes_iff, ← lower_eq_star_iff,
    ← lower_eq_star_iff (s := a'.mainType), hmain, hsub, hmain', hsub']

theorem isCompatible_congr (ha : a.sameFormat a' = true) (hb : b.sameFormat b' = true) :
    a.isCompatible b = a'.isCompatible b' := by
  rw [isCompatible, isCompatible, includes_congr ha hb, includes_congr hb ha]

theorem parameter?_congr (h : a.equivalent b = true) (name : String) :
    a.parameter? name = b.parameter? name := by
  rw [parameter?, parameter?, (equivalent_iff.mp h).2]

/-- What is equivalent to one of two equivalent media types is equivalent to the other. -/
theorem equivalent_right_congr (h : a.equivalent b = true) (m : MediaType) :
    m.equivalent a = m.equivalent b := by
  rw [Bool.eq_iff_iff]
  constructor
  · intro hm
    exact equivalent_trans hm h
  · intro hm
    exact equivalent_trans hm (equivalent_symm h)

theorem wellKnownId?_congr (h : a.equivalent b = true) :
    Composite.wellKnownId? a = Composite.wellKnownId? b := by
  have htest : (fun e : UInt8 × MediaType => e.2.equivalent a) = fun e => e.2.equivalent b := by
    funext e
    exact equivalent_right_congr h e.2
  rw [Composite.wellKnownId?, Composite.wellKnownId?, htest]

/-! ## What is printed -/

/-- Whether the separators of a media type are in the right places. -/
structure Legible (m : MediaType) : Prop where
  format : PlainFormat m.mainType m.subtype
  parameters : ∀ e ∈ m.parameters.toList, LegibleParameter e.1 e.2

theorem legible_of_parse {s : String} {m : MediaType} (h : parse s = .ok m) : m.Legible := by
  obtain ⟨hformat, -, hread⟩ := plain_of_parse h
  exact ⟨hformat, fun e he => (hread e he).toLegibleParameter⟩

theorem legible_bare (h : a.Legible) : a.bare.Legible :=
  ⟨plainFormat_lower.mpr h.format, fun _ he => absurd he List.not_mem_nil⟩

/-- The parts of a media type, with nothing around them. -/
def parts (m : MediaType) : List (List Char) :=
  (m.mainType.toList ++ '/' :: m.subtype.toList)
    :: m.parameters.toList.map fun e => e.1.toList ++ '=' :: e.2.toList

/-- Parts are told apart by the semicolons between them. -/
theorem splitOn_render (h : a.Legible) : a.render.toList.splitOn ';' = a.parts := by
  rw [toList_render]
  exact List.splitOn_intercalate ';' (not_mem_printed h.format h.parameters) (List.cons_ne_nil _ _)

/-- The name and the value around the first equals sign of a part. -/
def splitParameter (part : List Char) : Option (String × String) :=
  (cut? '=' part).map fun c => (String.ofList c.1, String.ofList c.2)

/-- Parameters are found again in their parts. -/
theorem map_splitParameter {ps : List (String × String)} (h : ∀ e ∈ ps, '=' ∉ e.1.toList) :
    (ps.map fun e => e.1.toList ++ '=' :: e.2.toList).map splitParameter = ps.map some := by
  rw [List.map_map]
  refine List.map_congr_left fun e he => ?_
  rw [Function.comp_apply, splitParameter, cut?_append (h e he)]
  simp only [Option.map_some, String.ofList_toList]

/-- Where separators are in the right places, media types that print alike are equal. -/
theorem eq_of_render_eq (ha : a.Legible) (hb : b.Legible) (h : a.render = b.render) : a = b := by
  have hparts : a.parts = b.parts := by rw [← splitOn_render ha, h, splitOn_render hb]
  obtain ⟨hformat, hparams⟩ := List.cons.inj hparts
  have hcut := cut?_append ha.format.mainType_slash a.subtype.toList
  rw [hformat, cut?_append hb.format.mainType_slash, Option.some.injEq, Prod.mk.injEq] at hcut
  have hequals : ∀ {m : MediaType}, m.Legible → ∀ e ∈ m.parameters.toList, '=' ∉ e.1.toList :=
    fun hm e he => (hm.parameters e he).name_equals
  have hsplit := map_splitParameter (hequals ha)
  rw [hparams, map_splitParameter (hequals hb)] at hsplit
  have hlist : b.parameters.toList = a.parameters.toList :=
    List.map_injective_iff.mpr (fun _ _ => Option.some.inj) hsplit
  have hmain := String.toList_inj.mp hcut.1
  have hsub := String.toList_inj.mp hcut.2
  have hdict : b.parameters = a.parameters := Dict.ext hlist
  cases a
  cases b
  subst hmain hsub hdict
  rfl

/-- In lower case, equivalent media types are equal. -/
theorem equivalent_iff_eq_of_folded (ha : a.Folded) (hb : b.Folded) :
    a.equivalent b = true ↔ a = b := by
  constructor
  · intro h
    obtain ⟨hformat, hparams⟩ := equivalent_iff.mp h
    rw [sameFormat_iff, ha.1, ha.2, hb.1, hb.2] at hformat
    cases a
    cases b
    simp only [MediaType.mk.injEq]
    exact ⟨hformat.1, hformat.2, hparams⟩
  · rintro rfl
    exact equivalent_refl a

/-- Media types that were read are equivalent exactly if they print alike. -/
theorem equivalent_iff_render_eq {s t : String} (ha : parse s = .ok a) (hb : parse t = .ok b) :
    a.equivalent b = true ↔ a.render = b.render := by
  rw [equivalent_iff_eq_of_folded (plain_of_parse ha).2.1 (plain_of_parse hb).2.1]
  exact ⟨congrArg render, eq_of_render_eq (legible_of_parse ha) (legible_of_parse hb)⟩

/-! ## What errors print -/

/-- An error that names several formats prints each of them differently, if the decoders'
formats were read. -/
theorem nodup_renders_of_ambiguous {ds : List Decoder} {e : DataFormat.Ambiguous}
    (hread : ∀ d ∈ ds, ∀ m ∈ d.mediaTypes, ∃ s, parse s = .ok m)
    (h : DataFormat.resolve ds = .error e) :
    (e.formats.map render).Nodup := by
  have hformats : DataFormat.represented ds = e.formats := by
    rw [DataFormat.resolve_eq_verdict] at h
    unfold DataFormat.verdict at h
    split at h
    · cases h
    · cases h
    · exact congrArg DataFormat.Ambiguous.formats (Except.error.inj h)
  rw [← hformats]
  have hlegible : ∀ m ∈ DataFormat.represented ds, m.Legible := by
    intro m hm
    obtain ⟨d, hd, hstands⟩ := DataFormat.mem_represented.mp hm
    obtain ⟨m', hfind, rfl⟩ := Option.map_eq_some_iff.mp hstands
    obtain ⟨s, hs⟩ := hread d hd m' (List.mem_of_find?_eq_some hfind)
    exact legible_bare (legible_of_parse hs)
  exact (DataFormat.nodup_represented ds).map_on
    fun m hm m' hm' hprint => eq_of_render_eq (hlegible m hm) (hlegible m' hm') hprint

/-- A codec that refuses media types prints the same about two of them exactly if they print
alike. -/
theorem unsupported_message_inj {codec subject : String} :
    (CodecError.unsupported codec subject (some a)).message
        = (CodecError.unsupported codec subject (some b)).message
      ↔ a.render = b.render := by
  have hmessage : ∀ m : MediaType, (CodecError.unsupported codec subject (some m)).message.toList
      = (codec ++ " cannot handle " ++ subject ++ " as ").toList ++ m.render.toList :=
    fun m => String.toList_append
  rw [← String.toList_inj, hmessage, hmessage, List.append_cancel_left_eq, String.toList_inj]

/-! ## Main result -/

/--
**One equality for everything.** Among all media types, in capitals or not:

* equivalence is an equivalence relation, and equivalent media types are those that are hashed
  from the same bytes;
* putting an equivalent one in the place of either media type changes neither inclusion nor
  compatibility nor whether they have the same format, and it changes neither whether a media type
  is concrete, nor a parameter of it, nor its number in composite metadata;
* media types that were read are equivalent exactly if they print alike, and exactly if a codec
  that refuses them says the same; an error that names several formats that were read prints each
  of them differently.
-/
theorem equivalent_coherent :
    (Equivalence fun a b : MediaType => a.equivalent b = true)
      ∧ (∀ a b : MediaType, a.equivalent b = true ↔ a.fingerprint = b.fingerprint)
      ∧ (∀ a a' b b' : MediaType, a.equivalent a' = true → b.equivalent b' = true →
          a.includes b = a'.includes b' ∧ a.isCompatible b = a'.isCompatible b'
            ∧ a.sameFormat b = a'.sameFormat b')
      ∧ (∀ a a' : MediaType, a.equivalent a' = true →
          a.isConcrete = a'.isConcrete ∧ (∀ name, a.parameter? name = a'.parameter? name)
            ∧ Composite.wellKnownId? a = Composite.wellKnownId? a')
      ∧ (∀ s t a b, parse s = .ok a → parse t = .ok b →
          (a.equivalent b = true ↔ a.render = b.render)
            ∧ ∀ codec subject, a.equivalent b = true
              ↔ (CodecError.unsupported codec subject (some a)).message
                = (CodecError.unsupported codec subject (some b)).message)
      ∧ ∀ ds e, (∀ d ∈ ds, ∀ m ∈ d.mediaTypes, ∃ s, parse s = .ok m) →
          DataFormat.resolve ds = .error e → (e.formats.map render).Nodup := by
  refine ⟨equivalence_equivalent, fun a b => fingerprint_eq_iff.symm, ?_, ?_, ?_, ?_⟩
  · intro a a' b b' ha hb
    have ha := sameFormat_of_equivalent ha
    have hb := sameFormat_of_equivalent hb
    exact ⟨includes_congr ha hb, isCompatible_congr ha hb, sameFormat_congr₂ ha hb⟩
  · intro a a' h
    exact ⟨isConcrete_congr (sameFormat_of_equivalent h), parameter?_congr h, wellKnownId?_congr h⟩
  · intro s t a b ha hb
    refine ⟨equivalent_iff_render_eq ha hb, fun codec subject => ?_⟩
    rw [equivalent_iff_render_eq ha hb, unsupported_message_inj]
  · exact fun ds e hread h => nodup_renders_of_ambiguous hread h

theorem equivalent_capitals : (verbatim "TEXT" "Plain").equivalent textPlain = true := by
  have hmain : Text.lower (String.ofList ['T', 'E', 'X', 'T'])
      = Text.lower (String.ofList ['t', 'e', 'x', 't']) :=
    Text.lower_ofList_eq rfl
  have hsub : Text.lower (String.ofList ['P', 'l', 'a', 'i', 'n'])
      = Text.lower (String.ofList ['p', 'l', 'a', 'i', 'n']) :=
    Text.lower_ofList_eq rfl
  exact equivalent_iff.mpr ⟨sameFormat_iff.mpr ⟨hmain, hsub⟩, rfl⟩

/-- Plain text in capitals counts as plain text wherever it is asked, though it prints in
capitals. A parameter with and without quotes is the same once it was read, and then
prints the same. -/
theorem coherent_capitals :
    (verbatim "TEXT" "Plain").fingerprint = textPlain.fingerprint
      ∧ any.includes (verbatim "TEXT" "Plain") = any.includes textPlain
      ∧ Composite.wellKnownId? (verbatim "TEXT" "Plain") = Composite.wellKnownId? textPlain
      ∧ (verbatim "TEXT" "Plain").render ≠ textPlain.render
      ∧ ∃ a b, parse "a/b;q=1" = .ok a ∧ parse "a/b; Q=\"1\"" = .ok b ∧ a.equivalent b = true
        ∧ a.render = b.render := by
  obtain ⟨hequivalence, hfingerprint, hpair, hone, hread, -⟩ := equivalent_coherent
  have hparse : parse "a/b;q=1" = .ok ((make "a" "b").withParameter "q" "1") := rfl
  have hparse' : parse "a/b; Q=\"1\"" = .ok ((make "a" "b").withParameter "Q" "1") := rfl
  have hname : Text.lower (String.ofList ['q']) = Text.lower (String.ofList ['Q']) :=
    Text.lower_ofList_eq rfl
  have hsame : (make "a" "b").withParameter "q" "1" = (make "a" "b").withParameter "Q" "1" :=
    congrArg (fun name => { make "a" "b" with parameters := Dict.empty.insert name "1" }) hname
  have hequiv : ((make "a" "b").withParameter "q" "1").equivalent
      ((make "a" "b").withParameter "Q" "1") = true :=
    hsame ▸ hequivalence.refl _
  exact ⟨(hfingerprint _ _).mp equivalent_capitals,
    (hpair _ _ _ _ (hequivalence.refl any) equivalent_capitals).1,
    (hone _ _ equivalent_capitals).2.2, by decide +kernel, _, _, hparse, hparse', hequiv,
    (hread _ _ _ _ hparse hparse').1.mp hequiv⟩

end SocketStrategies.MediaType
