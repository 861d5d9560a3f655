import SocketStrategies.MediaType.Parser
import SocketStrategies.Proofs.MediaType.Bindings
import SocketStrategies.Proofs.MediaType.Equality

/-!
# Which media types survive being printed and read

A media type prints its parts with nothing around them, so reading finds the parts again only if
the characters that stand between parts are not in them, and if trimming takes nothing off them.
For values there are two trimmings, of blanks and then of quotes.

The argument goes by what is read. Whatever is read has its separators in the right places, and
prints as something that is read again, with the same names; only a value may change, since blanks
inside quotes are kept when the quotes are dropped, and are trimmed the next time. A media type
that survives is equal to one that was read, and keeps its values besides.
-/

namespace SocketStrategies.MediaType

open Text (trim trimBoth lower isBlank Bare StartsWith EndsWith)

/-- A media type of some type and subtype, taken as they are or in lower case, with parameters set
one after the other. -/
inductive Built (mainType subtype : String) : MediaType → Prop where
  | verbatim : Built mainType subtype (verbatim mainType subtype)
  | make : Built mainType subtype (make mainType subtype)
  | withParameter {m : MediaType} (name value : String) :
      Built mainType subtype m → Built mainType subtype (m.withParameter name value)

/-- Whether a type and a subtype are found again around their slash. -/
structure PlainFormat (mainType subtype : String) : Prop where
  mainType_ne : mainType ≠ ""
  subtype_ne : subtype ≠ ""
  mainType_slash : '/' ∉ mainType.toList
  subtype_slash : '/' ∉ subtype.toList
  mainType_semicolon : ';' ∉ mainType.toList
  subtype_semicolon : ';' ∉ subtype.toList
  mainType_start : ¬ StartsWith isBlank mainType.toList
  subtype_end : ¬ EndsWith isBlank subtype.toList
  wildcard : mainType = "*" → subtype = "*"

/-- Whether a parameter is found again under its name, with some value. -/
structure LegibleParameter (name value : String) : Prop where
  name_semicolon : ';' ∉ name.toList
  name_equals : '=' ∉ name.toList
  name_bare : Bare isBlank name.toList
  value_semicolon : ';' ∉ value.toList

/-- Whether a parameter is found again with its value. -/
structure PlainParameter (name value : String) : Prop extends LegibleParameter name value where
  value_bare : Bare isBlank value.toList
  value_unquoted : Bare isQuote value.toList

/-- What a value is read as. -/
def reread (value : String) : String := String.ofList (trimBoth isQuote (trim value.toList))

/-- The values of a text as they are spelt, trimmed and with their quotes. -/
def speltValues (s : String) : List (List Char) :=
  (trimmedParts s).tail.filterMap fun part => (cut? '=' part).map fun p => trim p.2

/-- Whether a blank stands next to the quotes around a value, on the inside. -/
def BlankInQuotes (value : List Char) : Prop :=
  (∃ n c rest, value = List.replicate (n + 1) '"' ++ c :: rest ∧ isBlank c = true)
    ∨ ∃ front c n, value = front ++ c :: List.replicate (n + 1) '"' ∧ isBlank c = true

/-! ## What reading a text makes -/

theorem plainFormat_lower {mainType subtype : String} :
    PlainFormat (lower mainType) (lower subtype) ↔ PlainFormat mainType subtype := by
  have hempty : ∀ s : String, lower s = "" ↔ s = "" := by
    intro s
    rw [← String.toList_eq_nil_iff, ← String.toList_eq_nil_iff, Text.toList_lower,
      List.map_eq_nil_iff]
  have hstar : ∀ s : String, lower s = "*" ↔ s = "*" := by
    intro s
    refine ⟨fun h => Text.eq_of_lower_eq h (by simp), ?_⟩
    rintro rfl
    exact Text.lower_eq_self rfl
  have hslash : ∀ s : String, '/' ∈ (lower s).toList ↔ '/' ∈ s.toList :=
    fun s => Text.mem_lower_iff (by decide) (by decide)
  have hsemicolon : ∀ s : String, ';' ∈ (lower s).toList ↔ ';' ∈ s.toList :=
    fun s => Text.mem_lower_iff (by decide) (by decide)
  constructor
  · intro h
    exact ⟨mt (hempty _).mpr h.mainType_ne, mt (hempty _).mpr h.subtype_ne,
      mt (hslash _).mpr h.mainType_slash, mt (hslash _).mpr h.subtype_slash,
      mt (hsemicolon _).mpr h.mainType_semicolon, mt (hsemicolon _).mpr h.subtype_semicolon,
      mt (Text.startsWith_lower _).mpr h.mainType_start,
      mt (Text.endsWith_lower _).mpr h.subtype_end,
      fun hm => (hstar _).mp (h.wildcard ((hstar _).mpr hm))⟩
  · intro h
    exact ⟨mt (hempty _).mp h.mainType_ne, mt (hempty _).mp h.subtype_ne,
      mt (hslash _).mp h.mainType_slash, mt (hslash _).mp h.subtype_slash,
      mt (hsemicolon _).mp h.mainType_semicolon, mt (hsemicolon _).mp h.subtype_semicolon,
      mt (Text.startsWith_lower _).mp h.mainType_start,
      mt (Text.endsWith_lower _).mp h.subtype_end,
      fun hm => (hstar _).mpr (h.wildcard ((hstar _).mp hm))⟩

theorem plainFormat_of_formatOf {cs : List Char} {m : MediaType} (h : FormatOf cs m)
    (hs : ';' ∉ cs) (hb : Bare isBlank cs) : PlainFormat m.mainType m.subtype ∧ m.Folded := by
  refine ⟨?_, ?folded⟩
  case folded =>
    cases h with
    | star => exact ⟨Text.lower_lower _, Text.lower_lower _⟩
    | slash => exact ⟨Text.lower_lower _, Text.lower_lower _⟩
  cases h with
  | star =>
      refine plainFormat_lower.mpr ⟨by decide, by decide, by simp, by simp, by simp, by simp,
        ?_, ?_, id⟩
      · exact hb.1
      · exact hb.2
  | @slash mainType subtype hmain hsub hm hslash hwild =>
      obtain ⟨hstart, hend⟩ := (Text.bare_append_iff hmain hsub ['/']).mp hb
      have hm' : ';' ∉ mainType := fun h => hs (List.mem_append_left _ h)
      have hs' : ';' ∉ subtype := fun h => hs (List.mem_append_right _ (List.mem_cons_of_mem _ h))
      have hne : ∀ cs : List Char, cs ≠ [] → String.ofList cs ≠ "" := fun cs h => by
        rw [ne_eq, ← String.toList_eq_nil_iff, String.toList_ofList]
        exact h
      have hstar : ∀ cs : List Char, String.ofList cs = "*" ↔ cs = ['*'] := fun cs => by
        rw [← String.toList_inj, String.toList_ofList]
        rfl
      refine plainFormat_lower.mpr ⟨hne _ hmain, hne _ hsub, ?_, ?_, ?_, ?_, ?_, ?_, ?_⟩
      · rwa [String.toList_ofList]
      · rwa [String.toList_ofList]
      · rwa [String.toList_ofList]
      · rwa [String.toList_ofList]
      · rwa [String.toList_ofList]
      · rwa [String.toList_ofList]
      · rwa [hstar, hstar]

theorem exists_mem_of_forall₂ {α β : Type} {R : α → β → Prop} {l : List α} {u : List β}
    (h : List.Forall₂ R l u) {b : β} (hb : b ∈ u) : ∃ a ∈ l, R a b := by
  induction h with
  | nil => exact absurd hb List.not_mem_nil
  | cons hr _ ih =>
      rcases List.mem_cons.mp hb with rfl | hb
      · exact ⟨_, List.mem_cons_self, hr⟩
      · obtain ⟨a, ha, hab⟩ := ih hb
        exact ⟨a, List.mem_cons_of_mem _ ha, hab⟩

/-- A parameter as reading makes it: its name is folded, and its value is a part of the text
without its quotes. -/
structure ReadParameter (s name value : String) : Prop extends LegibleParameter name value where
  name_folded : lower name = name
  value_unquoted : Bare isQuote value.toList
  spelt : ∃ v ∈ speltValues s, value.toList = trimBoth isQuote v ∧ Bare isBlank v

theorem readParameter_of_parameterOf {s : String} {part : List Char} {q : String × String}
    (hpart : part ∈ (trimmedParts s).tail) (h : ParameterOf part q) :
    ReadParameter s (lower q.1) q.2 := by
  obtain ⟨hsemicolon, -⟩ := trimmedParts_spec (List.mem_of_mem_tail hpart)
  cases h with
  | @mk name value hname =>
      have hvalue : ∀ c, c ∈ trimBoth isQuote (trim value) → c ∈ value := fun c hc =>
        Text.mem_of_mem_trimBoth (Text.mem_of_mem_trimBoth hc)
      refine ⟨⟨?_, ?_, ?_, ?_⟩, Text.lower_lower _, ?_, trim value, ?_, String.toList_ofList, ?_⟩
      · rw [Text.mem_lower_iff (by decide) (by decide), String.toList_ofList]
        exact fun h => hsemicolon (List.mem_append_left _ (Text.mem_of_mem_trimBoth h))
      · rw [Text.mem_lower_iff (by decide) (by decide), String.toList_ofList]
        exact fun h => hname (Text.mem_of_mem_trimBoth h)
      · rw [Bare, Text.startsWith_lower, Text.endsWith_lower, String.toList_ofList]
        exact Text.bare_trimBoth isBlank name
      · rw [String.toList_ofList]
        exact fun h => hsemicolon (List.mem_append_right _ (List.mem_cons_of_mem _ (hvalue _ h)))
      · rw [String.toList_ofList]
        exact Text.bare_trimBoth isQuote _
      · refine List.mem_filterMap.mpr ⟨_, hpart, ?_⟩
        rw [cut?_append hname]
        rfl
      · exact Text.bare_trimBoth isBlank value

/-- Whatever is read has its separators in the right places. -/
theorem plain_of_parse {s : String} {m : MediaType} (h : parse s = .ok m) :
    PlainFormat m.mainType m.subtype ∧ m.Folded
      ∧ ∀ e ∈ m.parameters.toList, ReadParameter s e.1 e.2 := by
  obtain ⟨format, parts, m₀, qs, hparts, hformat, hqs, rfl⟩ := parse_eq_ok_iff.mp h
  have hfirst : format ∈ trimmedParts s := hparts ▸ List.mem_cons_self
  obtain ⟨hsemicolon, hbare⟩ := trimmedParts_spec hfirst
  obtain ⟨hplain, hfolded⟩ := plainFormat_of_formatOf hformat hsemicolon hbare
  rw [withParameters_eq, parameters_of_formatOf hformat]
  refine ⟨hplain, hfolded, fun e he => ?_⟩
  -- a binding was made by some part of the text
  obtain ⟨q, hq, rfl⟩ := List.mem_map.mp (Dict.mem_entries_ofList he)
  obtain ⟨part, hpart, hparam⟩ := exists_mem_of_forall₂ hqs hq
  refine readParameter_of_parameterOf ?_ hparam
  rw [hparts]
  exact List.mem_of_mem_filter hpart

/-! ## Printing and reading -/

theorem intercalate_cons {c : Char} (x : List Char) (xs : List (List Char)) :
    [c].intercalate (x :: xs) = x ++ xs.flatMap (c :: ·) := by
  induction xs generalizing x with
  | nil => simp
  | cons y ys ih =>
      rw [List.intercalate_cons_cons, ih, List.flatMap_cons, List.append_assoc,
        List.singleton_append, List.cons_append]

theorem toList_render (m : MediaType) :
    m.render.toList
      = [';'].intercalate ((m.mainType.toList ++ '/' :: m.subtype.toList)
          :: m.parameters.toList.map fun e => e.1.toList ++ '=' :: e.2.toList) := by
  rw [intercalate_cons, render]
  simp only [String.toList_append, String.toList_join, List.flatMap_map, List.append_assoc]
  rfl

theorem not_mem_printed {m : MediaType} (hformat : PlainFormat m.mainType m.subtype)
    (hparams : ∀ e ∈ m.parameters.toList, LegibleParameter e.1 e.2) :
    ∀ part ∈ (m.mainType.toList ++ '/' :: m.subtype.toList)
        :: m.parameters.toList.map fun e => e.1.toList ++ '=' :: e.2.toList, ';' ∉ part := by
  have hsplit : ∀ (a b : List Char) (c : Char), ';' ∉ a → ';' ≠ c → ';' ∉ b →
      ';' ∉ a ++ c :: b := by
    intro a b c ha hc hb h
    rcases List.mem_append.mp h with h | h
    · exact ha h
    · exact (List.mem_cons.mp h).elim hc hb
  refine List.forall_mem_cons.mpr ⟨?_, fun part hpart => ?_⟩
  · exact hsplit _ _ _ hformat.mainType_semicolon (by decide) hformat.subtype_semicolon
  · obtain ⟨e, he, rfl⟩ := List.mem_map.mp hpart
    exact hsplit _ _ _ (hparams e he).name_semicolon (by decide) (hparams e he).value_semicolon

/-- A printed parameter binds its name to what its value is read as. -/
theorem binding?_printed {name value : String} (h : LegibleParameter name value)
    (hfolded : lower name = name) :
    binding? (name.toList ++ '=' :: value.toList) = some (name, reread value) := by
  have hname : trim name.toList = name.toList := Text.trimBoth_eq_self_iff.mpr h.name_bare
  rw [binding?_append h.name_equals, hname, String.ofList_toList, hfolded, reread]

theorem formatOf_printed {mainType subtype : String} (h : PlainFormat mainType subtype) :
    FormatOf (trim (mainType.toList ++ '/' :: subtype.toList)) (make mainType subtype) := by
  have hmain := mt String.toList_eq_nil_iff.mp h.mainType_ne
  have hsub := mt String.toList_eq_nil_iff.mp h.subtype_ne
  have hbare := (Text.bare_append_iff hmain hsub ['/']).mpr ⟨h.mainType_start, h.subtype_end⟩
  have hwild : mainType.toList = ['*'] → subtype.toList = ['*'] := by
    intro hm
    rw [h.wildcard (String.toList_inj.mp hm)]
    rfl
  have hformat := FormatOf.slash hmain hsub h.mainType_slash h.subtype_slash hwild
  rw [String.ofList_toList, String.ofList_toList] at hformat
  rw [trim, ← List.singleton_append, Text.trimBoth_eq_self_iff.mpr hbare]
  exact hformat

/-- Where separators are in the right places, what is printed is read, and only values may
change. -/
theorem parse_render_of_legible {m : MediaType} (hformat : PlainFormat m.mainType m.subtype)
    (hparams : ∀ e ∈ m.parameters.toList, LegibleParameter e.1 e.2)
    (hfolded : ∀ e ∈ m.parameters.toList, lower e.1 = e.1) :
    parse m.render
      = .ok ⟨lower m.mainType, lower m.subtype, m.parameters.mapValues reread⟩ := by
  have hpieces : pieces m.render = (m.mainType.toList ++ '/' :: m.subtype.toList)
      :: m.parameters.toList.map fun e => e.1.toList ++ '=' :: e.2.toList := by
    rw [pieces, toList_render,
      List.splitOn_intercalate ';' (not_mem_printed hformat hparams) (List.cons_ne_nil _ _)]
  have hreadable : ∀ part ∈ m.parameters.toList.map fun e => e.1.toList ++ '=' :: e.2.toList,
      Readable part := by
    intro part hpart
    obtain ⟨e, -, rfl⟩ := List.mem_map.mp hpart
    exact readable_append_equals _ _
  -- names are folded already, so the bindings are those that were printed, up to their values
  have hbindings :
      (m.parameters.toList.map fun e => e.1.toList ++ '=' :: e.2.toList).filterMap binding?
        = (m.parameters.mapValues reread).entries := by
    rw [List.filterMap_map, Dict.entries_mapValues, ← List.filterMap_eq_map]
    exact List.filterMap_congr fun e he => binding?_printed (hparams e he) (hfolded e he)
  have hread := ReadAs.mk (formatOf_printed hformat) hreadable
  rw [withBindings, hbindings, Dict.ofList_entries, ← hpieces] at hread
  exact parse_eq_ok_iff_readAs.mpr hread

/-! ## What is lost -/

theorem reread_eq_self_iff {value : String} :
    reread value = value ↔ Bare isBlank value.toList ∧ Bare isQuote value.toList := by
  rw [reread, ← String.toList_inj, String.toList_ofList]
  constructor
  · intro h
    -- trimming only shortens, so neither of the two took anything off
    have hblank : trim value.toList <:+: value.toList := Text.infix_trimBoth isBlank value.toList
    have hquote := Text.infix_trimBoth isQuote (trim value.toList)
    rw [h] at hquote
    have htrim := hblank.eq_of_length (Nat.le_antisymm hblank.length_le hquote.length_le)
    rw [htrim] at h
    exact ⟨Text.trimBoth_eq_self_iff.mp htrim, Text.trimBoth_eq_self_iff.mp h⟩
  · rintro ⟨hblank, hquote⟩
    rw [trim, Text.trimBoth_eq_self_iff.mpr hblank, Text.trimBoth_eq_self_iff.mpr hquote]

theorem eq_replicate_of_quotes {q : Char} {cs : List Char} (h : ∀ c ∈ q :: cs, isQuote c = true) :
    q :: cs = List.replicate (cs.length + 1) '"' :=
  List.eq_replicate_iff.mpr ⟨List.length_cons, fun c hc => beq_iff_eq.mp (h c hc)⟩

/-- A trimmed value that is not bare without its quotes has a blank next to them. -/
theorem blankInQuotes_of_not_bare {v : List Char} (hv : Bare isBlank v)
    (h : ¬ Bare isBlank (trimBoth isQuote v)) : BlankInQuotes v := by
  obtain ⟨front, back, hsplit, hfront, hback⟩ := Text.exists_trimBoth isQuote v
  generalize trimBoth isQuote v = kept at hsplit h
  subst hsplit
  rw [Bare, not_and_or, not_not, not_not] at h
  rcases h with ⟨c, rest, rfl, hc⟩ | ⟨init, c, rfl, hc⟩
  · cases front with
    | nil => exact absurd ⟨c, rest ++ back, rfl, hc⟩ hv.1
    | cons q front =>
        rw [eq_replicate_of_quotes hfront]
        exact Or.inl ⟨front.length, c, rest ++ back, rfl, hc⟩
  · cases back with
    | nil =>
        have hend : EndsWith isBlank (front ++ (init ++ [c] ++ [])) :=
          ⟨front ++ init, c, by rw [List.append_nil, List.append_assoc], hc⟩
        exact absurd hend hv.2
    | cons q back =>
        rw [eq_replicate_of_quotes hback]
        refine Or.inr ⟨front ++ init, c, back.length, ?_, hc⟩
        rw [List.append_assoc, List.append_assoc, List.singleton_append]

/-! ## What survives -/

theorem folded_names_insert {d : Dict String String} (h : ∀ e ∈ d.toList, lower e.1 = e.1)
    (name value : String) : ∀ e ∈ (d.insert (lower name) value).toList, lower e.1 = e.1 := by
  intro e he
  rcases Dict.mem_insertEntry he with rfl | he
  · exact Text.lower_lower name
  · exact h e he

/-- However a media type was built, its format is plain if what it was built of is, and its
names are folded. -/
theorem Built.spec {mainType subtype : String} {m : MediaType} (h : Built mainType subtype m) :
    (PlainFormat m.mainType m.subtype ↔ PlainFormat mainType subtype)
      ∧ ∀ e ∈ m.parameters.toList, lower e.1 = e.1 := by
  induction h with
  | verbatim => exact ⟨Iff.rfl, fun e he => absurd he List.not_mem_nil⟩
  | make => exact ⟨plainFormat_lower, fun e he => absurd he List.not_mem_nil⟩
  | withParameter name value _ ih => exact ⟨ih.1, folded_names_insert ih.2 name value⟩

/-- A media type is found again exactly if its separators are in the right places and its
values are bare. -/
theorem parse_render_equivalent_iff {m : MediaType}
    (hfolded : ∀ e ∈ m.parameters.toList, lower e.1 = e.1) :
    (∃ m', parse m.render = .ok m' ∧ m'.equivalent m = true) ↔
      PlainFormat m.mainType m.subtype ∧ ∀ e ∈ m.parameters.toList, PlainParameter e.1 e.2 := by
  constructor
  · rintro ⟨m', hparse, hequiv⟩
    obtain ⟨hsame, hparams⟩ := equivalent_iff.mp hequiv
    obtain ⟨hmain, hsub⟩ := sameFormat_iff.mp hsame
    obtain ⟨hplain, -, hread⟩ := plain_of_parse hparse
    -- separators are as in what was read
    have hformat : PlainFormat m.mainType m.subtype := by
      rw [← plainFormat_lower, hmain, hsub] at hplain
      exact plainFormat_lower.mp hplain
    rw [hparams] at hread
    -- values are as in what was printed, reread
    rw [parse_render_of_legible hformat (fun e he => (hread e he).toLegibleParameter)
      hfolded] at hparse
    obtain rfl := Except.ok.inj hparse
    refine ⟨hformat, fun e he => ?_⟩
    obtain ⟨hblank, hquote⟩ := reread_eq_self_iff.mp (Dict.mapValues_eq_self_iff.mp hparams e he)
    exact ⟨(hread e he).toLegibleParameter, hblank, hquote⟩
  · rintro ⟨hformat, hplain⟩
    refine ⟨_, parse_render_of_legible hformat (fun e he => (hplain e he).toLegibleParameter)
      hfolded, ?_⟩
    rw [equivalent_iff, sameFormat_iff]
    refine ⟨⟨Text.lower_lower _, Text.lower_lower _⟩,
      Dict.mapValues_eq_self_iff.mpr fun e he => ?_⟩
    exact reread_eq_self_iff.mpr ⟨(hplain e he).value_bare, (hplain e he).value_unquoted⟩

/-- Whether a media type that was made of a text prints as one of the same format with the same
names, and as itself unless a blank stands next to the quotes of a value. -/
def PrintsBack (s : String) (m : MediaType) : Prop :=
  ∃ m', parse m.render = .ok m' ∧ m'.mainType = m.mainType ∧ m'.subtype = m.subtype
    ∧ m'.parameters.toList.map (·.1) = m.parameters.toList.map (·.1)
    ∧ (m' = m ∨ ∃ value ∈ speltValues s, BlankInQuotes value)

theorem printsBack_of_parse {s : String} {m : MediaType} (h : parse s = .ok m) :
    PrintsBack s m := by
  obtain ⟨hformat, ⟨hmain, hsub⟩, hread⟩ := plain_of_parse h
  have hparse := parse_render_of_legible hformat (fun e he => (hread e he).toLegibleParameter)
    (fun e he => (hread e he).name_folded)
  rw [hmain, hsub] at hparse
  refine ⟨_, hparse, rfl, rfl, Dict.keys_mapValues m.parameters reread, ?_⟩
  by_cases hkept : ∀ e ∈ m.parameters.entries, reread e.2 = e.2
  · left
    rw [Dict.mapValues_eq_self_iff.mpr hkept]
  · right
    push Not at hkept
    obtain ⟨e, he, hne⟩ := hkept
    obtain ⟨v, hv, hvalue, hbare⟩ := (hread e he).spelt
    refine ⟨v, hv, blankInQuotes_of_not_bare hbare fun hblank => hne ?_⟩
    rw [← hvalue] at hblank
    exact reread_eq_self_iff.mpr ⟨hblank, (hread e he).value_unquoted⟩

theorem exists_parse_of_ofJson {text : String} {m : MediaType} (h : ofJson? text = some m) :
    ∃ s, (Json.read? (Utf8.encode text)).bind Json.Tree.text? = some s ∧ parse s = .ok m := by
  unfold ofJson? at h
  obtain ⟨t, ht, h⟩ := Option.bind_eq_some_iff.mp h
  obtain ⟨s, hs, h⟩ := Option.bind_eq_some_iff.mp h
  refine ⟨s, Option.bind_eq_some_iff.mpr ⟨t, ht, hs⟩, ?_⟩
  cases hparse : parse s with
  | error e =>
      rw [hparse] at h
      exact absurd h (Option.some_ne_none m).symm
  | ok m' =>
      rw [hparse] at h
      exact congrArg Except.ok (Option.some.inj h)

/-- Which media types survive being printed and read: those with their separators in the right
places, and with values that are bare. Whatever was read, from a text or from JSON, comes back but
for blanks that stood inside the quotes of a value. -/
theorem parse_render_exact :
    (∀ mainType subtype m, Built mainType subtype m →
      ((∃ m', parse m.render = .ok m' ∧ m'.equivalent m = true) ↔
        PlainFormat mainType subtype ∧ ∀ e ∈ m.parameters.toList, PlainParameter e.1 e.2))
    ∧ (∀ s m, parse s = .ok m → PrintsBack s m)
    ∧ ∀ text m, ofJson? text = some m →
      ∃ s, (Json.read? (Utf8.encode text)).bind Json.Tree.text? = some s ∧ PrintsBack s m := by
  refine ⟨fun mainType subtype m h => ?built, fun s m h => printsBack_of_parse h,
    fun text m h => ?fromJson⟩
  case built =>
    obtain ⟨hformat, hfolded⟩ := h.spec
    rw [parse_render_equivalent_iff hfolded, hformat]
  case fromJson =>
    obtain ⟨s, hs, hparse⟩ := exists_parse_of_ofJson h
    exact ⟨s, hs, printsBack_of_parse hparse⟩

/-- The blank inside the quotes is a part of the value, and is lost when the value is read
again. -/
theorem parse_render_blankInQuotes :
    PrintsBack "a/b;q=\" 1\"" ((make "a" "b").withParameter "q" " 1")
      ∧ ¬ (∃ m', parse ((make "a" "b").withParameter "q" " 1").render = .ok m'
        ∧ m'.equivalent ((make "a" "b").withParameter "q" " 1") = true)
      ∧ ∃ s, (Json.read? (Utf8.encode "\"a/b\"")).bind Json.Tree.text? = some s
        ∧ PrintsBack s (make "a" "b") := by
  obtain ⟨hbuilt, hparse, hjson⟩ := parse_render_exact
  refine ⟨hparse _ _ rfl, fun hfound => ?_, hjson _ _ rfl⟩
  have hplain := ((hbuilt "a" "b" _ (Built.withParameter "q" " 1" .make)).mp hfound).2
  have hvalue : PlainParameter (lower "q") " 1" := hplain _ (List.mem_singleton_self _)
  exact hvalue.value_bare.1 ⟨' ', ['1'], rfl, rfl⟩

end SocketStrategies.MediaType
