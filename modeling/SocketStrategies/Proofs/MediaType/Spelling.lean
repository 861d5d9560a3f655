import Mathlib.Logic.Relation
import SocketStrategies.Proofs.MediaType.Bindings

/-!
# Spellings of a media type

A media type can be spelt in many ways. `Respelt` lists the single changes that make one spelling
of another: letters of the format and of names change case, blanks and quotes are added, blank
parts are put in, and parts change places as long as those that bind the same name keep their
order. Each change keeps the format up to case, and the bindings of each name in their order. So
however many changes are made, the text is read as the same media type.
-/

namespace SocketStrategies.MediaType

open Text (trim trimBoth)

/-- A change to a part after the first one. -/
inductive PartChange : List Char → List Char → Prop where
  /-- Blanks are added around the part. -/
  | blanks {front back : List Char} : AllBlank front → AllBlank back → (part : List Char) →
      PartChange part (front ++ (part ++ back))
  | nameCase {name name' : List Char} :
      '=' ∉ name → name.map Char.toLower = name'.map Char.toLower →
      (value : List Char) → PartChange (name ++ '=' :: value) (name' ++ '=' :: value)
  /-- Blanks are added around the first equals sign. -/
  | equalsBlanks {name front back : List Char} : '=' ∉ name → AllBlank front → AllBlank back →
      (value : List Char) →
      PartChange (name ++ '=' :: value) ((name ++ front) ++ '=' :: (back ++ value))
  /-- The value is put in quotes, without the blanks around it. -/
  | quotes {name : List Char} : '=' ∉ name → (value : List Char) →
      PartChange (name ++ '=' :: value) (name ++ '=' :: (['"'] ++ (trim value ++ ['"'])))

/-- A change to the pieces of a text: the format, and the parts after it. -/
inductive Change : List (List Char) → List (List Char) → Prop where
  | formatCase {format format' : List Char} : format.map Char.toLower = format'.map Char.toLower →
      (parts : List (List Char)) → Change (format :: parts) (format' :: parts)
  /-- Blanks are added around the format. -/
  | formatBlanks {front back : List Char} : AllBlank front → AllBlank back → (format : List Char) →
      (parts : List (List Char)) → Change (format :: parts) ((front ++ (format ++ back)) :: parts)
  | part {part part' : List Char} : PartChange part part' → (format : List Char) →
      (before after : List (List Char)) →
      Change (format :: (before ++ part :: after)) (format :: (before ++ part' :: after))
  /-- A blank part is put in anywhere behind the format. -/
  | blankPart {part : List Char} :
      AllBlank part → (format : List Char) → (before after : List (List Char)) →
      Change (format :: (before ++ after)) (format :: (before ++ part :: after))
  /-- Parts change places, but those that bind the same name keep their order. -/
  | reorder {parts parts' : List (List Char)} : parts.Perm parts' →
      (∀ name, (parts.filter fun p => boundName? p == some name)
        = parts'.filter fun p => boundName? p == some name) →
      (format : List Char) → Change (format :: parts) (format :: parts')

/-- Whether one text is another one with a single change. -/
def Respelt (s s' : String) : Prop := Change (pieces s) (pieces s')

/-! ## Formats -/

theorem eq_singleton_of_map_toLower_eq {d : Char} (hlower : d.isLower = false) (hd : d.toLower = d)
    {cs : List Char} (h : [d].map Char.toLower = cs.map Char.toLower) : cs = [d] := by
  obtain ⟨c, rest, rfl, hc, hrest⟩ := List.map_eq_cons_iff.mp h.symm
  rw [List.map_eq_nil_iff.mp hrest, Text.eq_of_toLower_eq (hc.trans hd) hlower]

theorem eq_star_iff {cs cs' : List Char} (h : cs.map Char.toLower = cs'.map Char.toLower) :
    cs = ['*'] ↔ cs' = ['*'] := by
  constructor
  · rintro rfl
    exact eq_singleton_of_map_toLower_eq (by decide) (by decide) h
  · rintro rfl
    exact eq_singleton_of_map_toLower_eq (by decide) (by decide) h.symm

/-- The case of letters in a format does not count. -/
theorem FormatOf.of_map_toLower_eq {cs cs' : List Char} {m : MediaType} (h : FormatOf cs m)
    (hcase : cs.map Char.toLower = cs'.map Char.toLower) : FormatOf cs' m := by
  cases h with
  | star =>
      rw [(eq_star_iff hcase).mp rfl]
      exact .star
  | @slash mainType subtype hmain hsub hmainSlash hsubSlash hwild =>
      rw [List.map_append, List.map_cons] at hcase
      obtain ⟨mainType', rest, rfl, hmainCase, hrest⟩ := List.map_eq_append_iff.mp hcase.symm
      obtain ⟨c, subtype', rfl, hc, hsubCase⟩ := List.map_eq_cons_iff.mp hrest
      obtain rfl : c = '/' := Text.eq_of_toLower_eq hc (by decide)
      have hne : ∀ {a b : List Char},
          a.map Char.toLower = b.map Char.toLower → b ≠ [] → a ≠ [] := by
        rintro a b hab hb rfl
        exact hb (List.map_eq_nil_iff.mp hab.symm)
      have hslash : ∀ {a b : List Char},
          a.map Char.toLower = b.map Char.toLower → '/' ∉ b → '/' ∉ a :=
        fun hab hb ha => hb (Text.mem_of_map_toLower_eq (by decide) (by decide) hab ha)
      have hmake : make (String.ofList mainType) (String.ofList subtype)
          = make (String.ofList mainType') (String.ofList subtype') := by
        rw [make, make, Text.lower_ofList_eq hmainCase, Text.lower_ofList_eq hsubCase]
      rw [hmake]
      refine .slash (hne hmainCase hmain) (hne hsubCase hsub) (hslash hmainCase hmainSlash)
        (hslash hsubCase hsubSlash) fun hstar => ?_
      exact (eq_star_iff hsubCase).mpr (hwild ((eq_star_iff hmainCase).mp hstar))

theorem map_toLower_trim_eq {cs cs' : List Char} (h : cs.map Char.toLower = cs'.map Char.toLower) :
    (trim cs).map Char.toLower = (trim cs').map Char.toLower := by
  rw [trim, trim, ← Text.trimBoth_map Text.isBlank_toLower,
    ← Text.trimBoth_map Text.isBlank_toLower, h]

/-! ## Parts -/

/-- What is in quotes is as before once the quotes are taken off. -/
theorem unquote_quoted (value : List Char) :
    trimBoth isQuote (trim (['"'] ++ (trim value ++ ['"']))) = trimBoth isQuote (trim value) := by
  have hquote : ∀ c ∈ ['"'], isQuote c = true := List.forall_mem_singleton.mpr (by decide)
  have hends : Text.Bare Text.isBlank ['"'] :=
    Text.bare_of_forall (List.forall_mem_singleton.mpr (by decide))
  have hbare : Text.Bare Text.isBlank (['"'] ++ (trim value ++ ['"'])) :=
    (Text.bare_append_iff (List.cons_ne_nil _ _) (List.cons_ne_nil _ _) _).mpr hends
  rw [trim, Text.trimBoth_eq_self_iff.mpr hbare, Text.trimBoth_append_left hquote,
    Text.trimBoth_append_right hquote]

/-- A change to a part leaves what it binds alone. -/
theorem PartChange.binding? {part part' : List Char} (h : PartChange part part') :
    MediaType.binding? part' = MediaType.binding? part := by
  cases h with
  | blanks hfront hback => exact binding?_within_blanks hfront hback part
  | nameCase hname hcase value =>
      have hname' := fun hmem =>
        hname (Text.mem_of_map_toLower_eq (by decide) (by decide) hcase.symm hmem)
      rw [binding?_append hname, binding?_append hname',
        Text.lower_ofList_eq (map_toLower_trim_eq hcase)]
  | @equalsBlanks name front back hname hfront hback value =>
      have hname' : '=' ∉ name ++ front := by
        intro hmem
        rcases List.mem_append.mp hmem with hmem | hmem
        · exact hname hmem
        · exact equals_not_mem_of_blank hfront hmem
      rw [binding?_append hname, binding?_append hname', trim, trim, trim, trim,
        Text.trimBoth_append_right hfront, Text.trimBoth_append_left hback]
  | quotes hname value => rw [binding?_append hname, binding?_append hname, unquote_quoted]

theorem PartChange.readable {part part' : List Char} (h : PartChange part part')
    (hpart : Readable part) :
    Readable part' := by
  cases h with
  | blanks hfront hback =>
      rcases hpart with hblank | hmem
      · left
        rw [trim, Text.trimBoth_append_left hfront, Text.trimBoth_append_right hback]
        exact hblank
      · exact .inr (List.mem_append_right _ (List.mem_append_left _ hmem))
  | nameCase _ _ value => exact readable_append_equals _ value
  | equalsBlanks _ _ _ value => exact readable_append_equals _ _
  | quotes _ value => exact readable_append_equals _ _

/-! ## Texts -/

theorem withBindings_congr {m : MediaType} {parts parts' : List (List Char)}
    (h : parts'.filterMap binding? = parts.filterMap binding?) :
    m.withBindings parts' = m.withBindings parts := by
  rw [withBindings, withBindings, h]

/-- The bindings of a name are those of the parts that bind it. -/
theorem filter_bindings (parts : List (List Char)) (name : String) :
    ((parts.filterMap binding?).filter fun e => e.1 == name)
      = (parts.filter fun p => boundName? p == some name).filterMap binding? := by
  rw [List.filter_filterMap, List.filterMap_filter]
  refine List.filterMap_congr fun p _ => ?_
  rw [boundName?]
  cases hbinding : binding? p with
  | none => rfl
  | some e => rw [Option.filter_some, Option.map_some, Option.some_beq_some]

theorem ReadAs.of_change {ps ps' : List (List Char)} {m : MediaType} (h : ReadAs ps m)
    (hchange : Change ps ps') :
    ReadAs ps' m := by
  cases h with
  | @mk format parts m hformat hreadable =>
      cases hchange with
      | formatCase hcase =>
          exact .mk (hformat.of_map_toLower_eq (map_toLower_trim_eq hcase)) hreadable
      | formatBlanks hfront hback format =>
          refine .mk ?_ hreadable
          rw [trim, Text.trimBoth_append_left hfront, Text.trimBoth_append_right hback]
          exact hformat
      | @part part part' hpart _ before after =>
          obtain ⟨hbefore, hothers⟩ := List.forall_mem_append.mp hreadable
          obtain ⟨hone, hafter⟩ := List.forall_mem_cons.mp hothers
          have hbindings : (before ++ part' :: after).filterMap binding?
              = (before ++ part :: after).filterMap binding? := by
            rw [List.filterMap_append, List.filterMap_append, List.filterMap_cons,
              List.filterMap_cons, hpart.binding?]
          rw [← withBindings_congr hbindings]
          exact .mk hformat
            (List.forall_mem_append.mpr ⟨hbefore,
              List.forall_mem_cons.mpr ⟨hpart.readable hone, hafter⟩⟩)
      | @blankPart part hblank _ before after =>
          obtain ⟨hbefore, hafter⟩ := List.forall_mem_append.mp hreadable
          have htrim : trim part = [] := Text.trimBoth_eq_nil_iff.mpr hblank
          have hbindings : (before ++ part :: after).filterMap binding?
              = (before ++ after).filterMap binding? := by
            rw [List.filterMap_append, List.filterMap_append,
              List.filterMap_cons_none (binding?_of_blank htrim)]
          rw [← withBindings_congr hbindings]
          exact .mk hformat (List.forall_mem_append.mpr ⟨hbefore,
            List.forall_mem_cons.mpr ⟨.inl htrim, hafter⟩⟩)
      | @reorder _ parts' hperm hnames =>
          have hdict : Dict.ofList (parts.filterMap binding?)
              = Dict.ofList (parts'.filterMap binding?) := by
            refine Dict.ofList_congr fun name => ?_
            rw [filter_bindings, filter_bindings, hnames]
          rw [withBindings, hdict]
          exact .mk hformat fun p hp => hreadable p (hperm.mem_iff.mpr hp)

/--
**Spelling does not count.** A text that is read as a media type may be changed in case, blanks,
quotes, blank parts and order, as often as one likes: it is read as the very same media type,
which prints as before. Where several parts bind one name, the last of them decides.
-/
theorem parse_of_respellings {s s' : String} {m : MediaType} (h : parse s = .ok m)
    (hs : Relation.ReflTransGen Respelt s s') :
    parse s' = .ok m
      ∧ ∀ format before name value after,
        pieces s' = format :: (before ++ (name ++ '=' :: value) :: after) →
        '=' ∉ name → (∀ p ∈ after, boundName? p ≠ some (Text.lower (String.ofList (trim name)))) →
        m.parameter? (String.ofList (trim name))
          = some (String.ofList (trimBoth isQuote (trim value))) := by
  have hread : ReadAs (pieces s') m := by
    induction hs with
    | refl => exact parse_eq_ok_iff_readAs.mp h
    | tail _ hstep ih => exact ih.of_change hstep
  refine ⟨parse_eq_ok_iff_readAs.mpr hread, ?_⟩
  intro format before name value after hpieces hname hafter
  rw [hpieces] at hread
  cases hread with
  | @mk _ _ m₀ _ _ => exact parameter?_of_last m₀ hname value hafter

/-- A media type whose quality is given twice. -/
def doubleQuality : MediaType :=
  (((make "a" "b").withParameter "q" "0").withParameter "c" "1").withParameter "Q" "2"

/-- Four changes: a capital, one parameter in front of another, quotes, and a blank part. The
second quality decides. -/
theorem parse_of_respellings_doubleQuality :
    Relation.ReflTransGen Respelt "a/b;q=0;c=1;Q=2" "A/b; ;c=\"1\";q=0;Q=2"
      ∧ parse "A/b; ;c=\"1\";q=0;Q=2" = .ok doubleQuality
      ∧ doubleQuality.parameter? "Q" = some "2" := by
  have hcase : Respelt "a/b;q=0;c=1;Q=2" "A/b;q=0;c=1;Q=2" :=
    @Change.formatCase ['a', '/', 'b'] ['A', '/', 'b'] (by decide) _
  have horder : Respelt "A/b;q=0;c=1;Q=2" "A/b;c=1;q=0;Q=2" := by
    refine @Change.reorder [['q', '=', '0'], ['c', '=', '1'], ['Q', '=', '2']]
      [['c', '=', '1'], ['q', '=', '0'], ['Q', '=', '2']] (.swap _ _ _) (fun name => ?_)
      ['A', '/', 'b']
    have hbound : boundName? ['c', '=', '1'] = some "c" := by decide +kernel
    by_cases hname : name = "c"
    · subst hname
      decide +kernel
    · -- the part that is moved binds no such name
      have hother : ¬ (some "c" == some name) = true := by
        rw [beq_iff_eq]
        exact fun h => hname (Option.some.inj h).symm
      simp only [List.filter_cons, hbound, if_neg hother]
  have hquotes : Respelt "A/b;c=1;q=0;Q=2" "A/b;c=\"1\";q=0;Q=2" :=
    .part (@PartChange.quotes ['c'] (by decide) ['1']) ['A', '/', 'b'] [] _
  have hblank : Respelt "A/b;c=\"1\";q=0;Q=2" "A/b; ;c=\"1\";q=0;Q=2" :=
    @Change.blankPart [' '] (List.forall_mem_singleton.mpr (by decide)) ['A', '/', 'b'] [] _
  have hs := (((Relation.ReflTransGen.single hcase).tail horder).tail hquotes).tail hblank
  have hread : parse "a/b;q=0;c=1;Q=2" = .ok doubleQuality := rfl
  obtain ⟨hparse, hlast⟩ := parse_of_respellings hread hs
  have hpieces : pieces "A/b; ;c=\"1\";q=0;Q=2" = ['A', '/', 'b']
      :: ([[' '], ['c', '=', '"', '1', '"'], ['q', '=', '0']]
        ++ (['Q'] ++ '=' :: ['2']) :: []) := by decide +kernel
  have hquality := hlast _ _ _ _ _ hpieces (by decide) fun _ hp => absurd hp List.not_mem_nil
  have hname : String.ofList (trim ['Q']) = "Q" := by decide +kernel
  have hvalue : String.ofList (trimBoth isQuote (trim ['2'])) = "2" := by decide +kernel
  rw [hname, hvalue] at hquality
  exact ⟨hs, hparse, hquality⟩

end SocketStrategies.MediaType
