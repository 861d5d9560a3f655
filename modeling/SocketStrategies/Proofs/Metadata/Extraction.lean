import Mathlib.Data.List.Forall2
import SocketStrategies.Metadata.Extractor
import SocketStrategies.Proofs.Dict
import SocketStrategies.Proofs.MediaType.Equality
import SocketStrategies.Proofs.Metadata.Grammar
import SocketStrategies.Proofs.Metadata.Routing

/-!
# Extraction is a merge from left to right

Metadata of one format **writes** names and values, or **fails**. Routing metadata writes its
first tag, if it has one, and no rule is asked about it; any other metadata writes under the
name of each rule of its format. It fails where tags are broken, or where a rule takes it as a
text and it is none.

Extracting from composite metadata makes the writes of the entries one after the other, up to the
first entry that fails. So a name ends up with what was written to it last. The writes of an entry
do not depend on what was written before, so extracting is also merging: each entry is extracted
from alone, and its values override those of the entries before it.
-/

namespace SocketStrategies.MetadataExtractor

/-! ## What metadata of one format writes -/

/-- The value that metadata is taken as. -/
inductive TakenAs : ValueKind → Bytes → MetadataValue → Prop where
  | bytes {b : Bytes} : TakenAs .bytes b (.bytes b)
  | text {s : String} : TakenAs .text (Utf8.encode s) (.text s)

/-- The rules that are asked about metadata of a format. -/
def asked (x : MetadataExtractor) (m : MediaType) : List ExtractionRule :=
  x.rules.filter fun r => r.mediaType.sameFormat m

/-- A rule writes under its name. -/
def RuleWrites (b : Bytes) (r : ExtractionRule) (w : String × MetadataValue) : Prop :=
  w.1 = r.name ∧ TakenAs r.kind b w.2

/-- What metadata of a format writes, in order. -/
inductive Writes (x : MetadataExtractor) (b : Bytes) (m : MediaType) :
    List (String × MetadataValue) → Prop where
  /-- Routing metadata writes its first tag. -/
  | route {tag : String} {tags : List String} :
      m.sameFormat .routing = true → Routing.TagsOf b (tag :: tags) →
      Writes x b m [(routeKey, .text tag)]
  | noTag : m.sameFormat .routing = true → Routing.TagsOf b [] → Writes x b m []
  /-- Any other metadata writes by the rules of its format, in their order. -/
  | rules {ws : List (String × MetadataValue)} :
      m.sameFormat .routing = false → List.Forall₂ (RuleWrites b) (x.asked m) ws → Writes x b m ws

/-- Why metadata of a format cannot be extracted from. -/
inductive Fails (x : MetadataExtractor) (b : Bytes) (m : MediaType) : MetadataError → Prop where
  | routing {err : MetadataError} :
      m.sameFormat .routing = true → FirstBroken Routing.TagOf Routing.BrokenTag b err →
      Fails x b m err
  /-- A rule takes it as a text, and it is none. -/
  | notText {r : ExtractionRule} :
      m.sameFormat .routing = false → r ∈ x.rules → r.mediaType.sameFormat m = true →
      r.kind = .text → (∀ s, b ≠ Utf8.encode s) → Fails x b m (.invalidUtf8 m.render)

/-- The values after writes on top of others. -/
def made (found : MetadataValues) (ws : List (String × MetadataValue)) : MetadataValues :=
  ws.foldl (fun d w => d.insert w.1 w.2) found

/-! ## Rules -/

/-- What an asked rule does. -/
def applyRule (b : Bytes) (m : MediaType) (found : MetadataValues) (r : ExtractionRule) :
    Except MetadataError MetadataValues := do .ok (found.insert r.name (← r.value b m))

theorem applyRule_of_writes {b : Bytes} {r : ExtractionRule} {w : String × MetadataValue}
    (h : RuleWrites b r w) (m : MediaType) (found : MetadataValues) :
    applyRule b m found r = .ok (found.insert w.1 w.2) := by
  obtain ⟨hname, htaken⟩ := h
  obtain ⟨name, value⟩ := w
  have hvalue : r.value b m = .ok value := by
    unfold ExtractionRule.value
    generalize r.kind = kind at htaken
    cases htaken with
    | bytes => rfl
    | text =>
        dsimp only
        rw [Utf8.decode?_encode]
  unfold applyRule
  rw [hvalue, hname]
  rfl

theorem applyRule_of_notText {b : Bytes} {r : ExtractionRule} (hk : r.kind = .text)
    (hb : ∀ s, b ≠ Utf8.encode s) (m : MediaType) (found : MetadataValues) :
    applyRule b m found r = .error (.invalidUtf8 m.render) := by
  have hvalue : r.value b m = .error (.invalidUtf8 m.render) := by
    unfold ExtractionRule.value
    rw [hk]
    dsimp only
    rw [Utf8.decode?_eq_none_iff.mpr hb]
  unfold applyRule
  rw [hvalue]
  rfl

/-- A rule writes, or it takes as a text what is none. -/
theorem ruleWrites_or_notText (b : Bytes) (r : ExtractionRule) :
    (∃ w, RuleWrites b r w) ∨ r.kind = .text ∧ ∀ s, b ≠ Utf8.encode s := by
  cases hk : r.kind with
  | bytes => exact Or.inl ⟨(r.name, .bytes b), rfl, hk ▸ .bytes⟩
  | text =>
      cases hd : Utf8.decode? b with
      | none => exact Or.inr ⟨rfl, Utf8.decode?_eq_none_iff.mp hd⟩
      | some s =>
          obtain rfl := Utf8.decode?_eq_some_iff.mp hd
          exact Or.inl ⟨(r.name, .text s), rfl, hk ▸ .text⟩

theorem foldlM_applyRule_of_writes {b : Bytes} {rs : List ExtractionRule}
    {ws : List (String × MetadataValue)} (h : List.Forall₂ (RuleWrites b) rs ws) (m : MediaType)
    (found : MetadataValues) : rs.foldlM (applyRule b m) found = .ok (made found ws) := by
  induction h generalizing found with
  | nil => rfl
  | cons hr _ ih =>
      rw [List.foldlM_cons, applyRule_of_writes hr]
      exact ih _

/-- All rules that fail on metadata fail alike, so it does not matter which of them is the
first. -/
theorem foldlM_applyRule_of_notText {b : Bytes} {rs : List ExtractionRule} {r : ExtractionRule}
    (hr : r ∈ rs) (hk : r.kind = .text) (hb : ∀ s, b ≠ Utf8.encode s) (m : MediaType)
    (found : MetadataValues) :
    rs.foldlM (applyRule b m) found = .error (.invalidUtf8 m.render) := by
  induction rs generalizing found with
  | nil => exact absurd hr List.not_mem_nil
  | cons r' rs ih =>
      rw [List.foldlM_cons]
      rcases ruleWrites_or_notText b r' with ⟨w, hw⟩ | ⟨hk', hb'⟩
      · rw [applyRule_of_writes hw]
        rcases List.mem_cons.mp hr with rfl | hr
        · -- a rule that writes did not take this as a text
          obtain ⟨_, htaken⟩ := hw
          generalize w.2 = v at htaken
          rw [hk] at htaken
          cases htaken with
          | text => exact absurd rfl (hb _)
        · exact ih hr _
      · rw [applyRule_of_notText hk' hb']
        rfl

theorem ruleWrites_all_or_notText (b : Bytes) (rs : List ExtractionRule) :
    (∃ ws, List.Forall₂ (RuleWrites b) rs ws)
      ∨ ∃ r ∈ rs, r.kind = .text ∧ ∀ s, b ≠ Utf8.encode s := by
  induction rs with
  | nil => exact Or.inl ⟨[], .nil⟩
  | cons r rs ih =>
      rcases ruleWrites_or_notText b r with ⟨w, hw⟩ | hb
      · rcases ih with ⟨ws, hws⟩ | ⟨r', hr', hb⟩
        · exact Or.inl ⟨w :: ws, .cons hw hws⟩
        · exact Or.inr ⟨r', List.mem_cons_of_mem r hr', hb⟩
      · exact Or.inr ⟨r, List.mem_cons_self, hb⟩

/-! ## One entry -/

variable {x : MetadataExtractor} {b : Bytes} {m : MediaType}

theorem mem_asked {r : ExtractionRule} :
    r ∈ x.asked m ↔ r ∈ x.rules ∧ r.mediaType.sameFormat m = true := List.mem_filter

theorem asked_standard (hm : m.sameFormat .textPlain = true) :
    standard.asked m = [⟨.textPlain, routeKey, .text⟩] := by
  rw [MediaType.sameFormat_comm] at hm
  exact List.filter_cons_of_pos hm

theorem extractEntry_of_not_routing (hm : m.sameFormat .routing = false) (b : Bytes)
    (found : MetadataValues) :
    x.extractEntry b m found = (x.asked m).foldlM (applyRule b m) found := by
  unfold extractEntry
  rw [hm]
  rfl

theorem extractEntry_of_writes {ws : List (String × MetadataValue)} (h : Writes x b m ws)
    (found : MetadataValues) : x.extractEntry b m found = .ok (made found ws) := by
  cases h with
  | route hm htags =>
      have hread := Routing.readsTags.of_itemsOf htags
      unfold extractEntry
      rw [if_pos hm, hread]
      rfl
  | noTag hm htags =>
      have hread := Routing.readsTags.of_itemsOf htags
      unfold extractEntry
      rw [if_pos hm, hread]
      rfl
  | rules hm hws =>
      rw [extractEntry_of_not_routing hm]
      exact foldlM_applyRule_of_writes hws m found

theorem extractEntry_of_fails {err : MetadataError} (h : Fails x b m err)
    (found : MetadataValues) :
    x.extractEntry b m found = .error err := by
  cases h with
  | routing hm hbroken =>
      have hread := Routing.readsTags.of_firstBroken hbroken
      unfold extractEntry
      rw [if_pos hm, hread]
      rfl
  | notText hm hr hformat hk hb =>
      rw [extractEntry_of_not_routing hm]
      exact foldlM_applyRule_of_notText (mem_asked.mpr ⟨hr, hformat⟩) hk hb m found

theorem writes_or_fails (x : MetadataExtractor) (b : Bytes) (m : MediaType) :
    (∃ ws, Writes x b m ws) ∨ ∃ err, Fails x b m err := by
  cases hm : m.sameFormat .routing with
  | true =>
      rcases Routing.readsTags.itemsOf_or_firstBroken b with ⟨tags, htags⟩ | ⟨err, hbroken⟩
      · cases tags with
        | nil => exact Or.inl ⟨_, .noTag hm htags⟩
        | cons tag tags => exact Or.inl ⟨_, .route hm htags⟩
      · exact Or.inr ⟨err, .routing hm hbroken⟩
  | false =>
      rcases ruleWrites_all_or_notText b (x.asked m) with ⟨ws, hws⟩ | ⟨r, hr, hk, hb⟩
      · exact Or.inl ⟨ws, .rules hm hws⟩
      · obtain ⟨hr, hformat⟩ := mem_asked.mp hr
        exact Or.inr ⟨_, .notText hm hr hformat hk hb⟩

theorem not_fails_of_writes {ws : List (String × MetadataValue)} (h : Writes x b m ws)
    (err : MetadataError) : ¬ Fails x b m err := by
  intro hf
  have hok := extractEntry_of_writes h .empty
  rw [extractEntry_of_fails hf] at hok
  cases hok

/-- What is found in metadata overrides what was found before, and does not depend on it. -/
theorem extractEntry_eq_override (x : MetadataExtractor) (b : Bytes) (m : MediaType)
    (found : MetadataValues) :
    x.extractEntry b m found = (x.extractEntry b m .empty).map found.override := by
  rcases writes_or_fails x b m with ⟨ws, hws⟩ | ⟨err, hf⟩
  · rw [extractEntry_of_writes hws, extractEntry_of_writes hws, made,
      Dict.foldl_insert_eq_override]
    rfl
  · rw [extractEntry_of_fails hf, extractEntry_of_fails hf]
    rfl

/-! ## Entries one after the other -/

/-- What an entry writes. -/
def EntryWrites (x : MetadataExtractor) (e : Composite.Entry)
    (ws : List (String × MetadataValue)) :
    Prop := Writes x e.content e.mediaType ws

/-- Why the first entry that fails does so. -/
def FirstFailing (x : MetadataExtractor) (es : List Composite.Entry)
    (err : MetadataError) : Prop :=
  ∃ front e back, es = front ++ e :: back
    ∧ (∀ y ∈ front, ∀ err', ¬ Fails x y.content y.mediaType err')
    ∧ Fails x e.content e.mediaType err

/-- What an entry does to the values found so far. -/
def extractNext (x : MetadataExtractor) (found : MetadataValues) (e : Composite.Entry) :
    Except MetadataError MetadataValues := x.extractEntry e.content e.mediaType found

theorem foldlM_extractNext_of_writes {es : List Composite.Entry}
    {wss : List (List (String × MetadataValue))} (h : List.Forall₂ (EntryWrites x) es wss)
    (found : MetadataValues) : es.foldlM x.extractNext found = .ok (made found wss.flatten) := by
  induction h generalizing found with
  | nil => rfl
  | @cons e ws es wss he _ ih =>
      have hnext : x.extractNext found e = .ok (made found ws) := extractEntry_of_writes he found
      rw [List.foldlM_cons, hnext, List.flatten_cons]
      unfold made
      rw [List.foldl_append]
      exact ih _

theorem foldlM_extractNext_of_firstFailing {es : List Composite.Entry} {err : MetadataError}
    (h : FirstFailing x es err) (found : MetadataValues) :
    es.foldlM x.extractNext found = .error err := by
  obtain ⟨front, e, back, rfl, hfront, he⟩ := h
  induction front generalizing found with
  | nil =>
      have hnext : x.extractNext found e = .error err := extractEntry_of_fails he found
      rw [List.nil_append, List.foldlM_cons, hnext]
      rfl
  | cons y front ih =>
      obtain ⟨hy, hfront⟩ := List.forall_mem_cons.mp hfront
      rcases writes_or_fails x y.content y.mediaType with ⟨ws, hws⟩ | ⟨err', hf⟩
      · have hnext : x.extractNext found y = .ok (made found ws) :=
          extractEntry_of_writes hws found
        rw [List.cons_append, List.foldlM_cons, hnext]
        exact ih _ hfront
      · exact absurd hf (hy err')

theorem entriesWrite_or_firstFailing (x : MetadataExtractor) (es : List Composite.Entry) :
    (∃ wss, List.Forall₂ (EntryWrites x) es wss) ∨ ∃ err, FirstFailing x es err := by
  induction es with
  | nil => exact Or.inl ⟨[], .nil⟩
  | cons e es ih =>
      rcases writes_or_fails x e.content e.mediaType with ⟨ws, hws⟩ | ⟨err, hf⟩
      · rcases ih with ⟨wss, hwss⟩ | ⟨err, front, y, back, rfl, hfront, hy⟩
        · exact Or.inl ⟨ws :: wss, .cons hws hwss⟩
        · exact Or.inr ⟨err, e :: front, y, back, rfl,
            List.forall_mem_cons.mpr ⟨not_fails_of_writes hws, hfront⟩, hy⟩
      · exact Or.inr ⟨err, [], e, es, rfl, fun y hy => absurd hy List.not_mem_nil, hf⟩

/-! ## Extraction as a whole -/

theorem extract_of_composite (hm : m.sameFormat .compositeMetadata = true) (x : MetadataExtractor)
    (b : Bytes) :
    x.extract b m = (Composite.decode b).bind fun es => es.foldlM x.extractNext .empty := by
  unfold extract
  rw [if_pos hm]
  rfl

theorem extract_of_not_composite (hm : m.sameFormat .compositeMetadata = false)
    (x : MetadataExtractor) (b : Bytes) : x.extract b m = x.extractEntry b m .empty := by
  unfold extract
  rw [hm]
  rfl

/-- Entry by entry is the same as each entry on its own, with later values over earlier ones. -/
theorem foldlM_extractNext_eq_override {es : List Composite.Entry}
    (h : ∀ e ∈ es, e.mediaType.sameFormat .compositeMetadata = false) (found : MetadataValues) :
    es.foldlM x.extractNext found
      = es.foldlM (fun found e => (x.extract e.content e.mediaType).map found.override) found := by
  induction es generalizing found with
  | nil => rfl
  | cons e es ih =>
      obtain ⟨he, hes⟩ := List.forall_mem_cons.mp h
      rw [List.foldlM_cons, List.foldlM_cons, extractNext, extractEntry_eq_override,
        extract_of_not_composite he]
      exact congrArg _ (funext fun found => ih hes found)

/-- The value that was written last under a name. -/
def lastWritten? (ws : List (String × MetadataValue)) (name : String) : Option MetadataValue :=
  ws.reverse.lookup name

theorem get?_made (ws : List (String × MetadataValue)) (name : String) :
    (made .empty ws).get? name = lastWritten? ws name :=
  (Dict.get?_foldl_insert ws .empty name).trans Option.or_none

theorem eq_made {values : MetadataValues} {ws : List (String × MetadataValue)}
    (h : ∀ name, values.get? name = lastWritten? ws name) : values = made .empty ws :=
  Dict.ext_get? fun name => (h name).trans (get?_made ws name).symm

theorem foldlM_extractNext_settled (x : MetadataExtractor) (es : List Composite.Entry) :
    (∀ values, es.foldlM x.extractNext .empty = .ok values
        ↔ ∃ wss, List.Forall₂ (EntryWrites x) es wss
            ∧ ∀ name, values.get? name = lastWritten? wss.flatten name)
      ∧ ∀ err, es.foldlM x.extractNext .empty = .error err ↔ FirstFailing x es err := by
  refine settled_of_total ?_ (fun _ hf => foldlM_extractNext_of_firstFailing hf .empty) ?_
  · rintro values ⟨wss, hwss, hvalues⟩
    rw [foldlM_extractNext_of_writes hwss, eq_made hvalues]
  · rcases entriesWrite_or_firstFailing x es with ⟨wss, hwss⟩ | hf
    · exact Or.inl ⟨_, wss, hwss, get?_made wss.flatten⟩
    · exact Or.inr hf

/--
**Extraction merges entries from left to right.** For every extractor and all composite metadata
that is read as entries:

* it fails exactly as the first entry that fails, with the error of that entry;
* else the value of every name is the one written last, in the order of entries and of
  what each writes;
* if no entry is composite metadata itself, it is what the entries give alone, with later values
  over earlier ones.

Metadata that is not read gives its error and no values.
-/
theorem extract_merges_entries (x : MetadataExtractor) (b : Bytes) (m : MediaType)
    (hm : m.sameFormat .compositeMetadata = true) :
    (∀ es, Composite.decode b = .ok es →
      (∀ err, x.extract b m = .error err ↔ FirstFailing x es err)
      ∧ (∀ values, x.extract b m = .ok values
          ↔ ∃ wss, List.Forall₂ (EntryWrites x) es wss
              ∧ ∀ name, values.get? name = lastWritten? wss.flatten name)
      ∧ ((∀ e ∈ es, e.mediaType.sameFormat .compositeMetadata = false) →
          x.extract b m
            = es.foldlM (fun found e => (x.extract e.content e.mediaType).map found.override)
              .empty))
      ∧ ∀ err, Composite.decode b = .error err → x.extract b m = .error err := by
  rw [extract_of_composite hm]
  constructor
  · intro es hes
    obtain ⟨hvalues, herr⟩ := foldlM_extractNext_settled x es
    rw [hes, Except.bind]
    exact ⟨herr, hvalues, fun h => foldlM_extractNext_eq_override h .empty⟩
  · intro err herr
    rw [herr]
    rfl

/-! ### A tag and a text under the same name -/

def tagAndText : List Composite.Entry := [⟨.routing, [1, 97]⟩, ⟨.textPlain, [98]⟩]

theorem frameOf_tag : Composite.FrameOf [0xFE, 0, 0, 2, 1, 97] [⟨.routing, [1, 97]⟩] := by
  have hlen : [(1 : UInt8), 97].length ≤ 0xFFFFFF := by decide
  exact Composite.FrameOf.mk Composite.headerOf_routing hlen

theorem headerOf_text : Composite.HeaderOf 0xA1 [] (some .textPlain) :=
  Composite.HeaderOf.known (k := (0x21, .textPlain)) (by decide) rfl

theorem decode_tagAndText :
    Composite.decode [0xFE, 0, 0, 2, 1, 97, 0xA1, 0, 0, 1, 98] = .ok tagAndText := by
  have hlen : [(98 : UInt8)].length ≤ 0xFFFFFF := by decide
  have hframes := ItemsOf.cons frameOf_tag
    (ItemsOf.cons (Composite.FrameOf.mk headerOf_text hlen) ItemsOf.nil)
  exact Composite.readsFrames.of_itemsOf hframes

/-- The tag is complete, and the text is cut off. -/
theorem decode_cut_text :
    Composite.decode [0xFE, 0, 0, 2, 1, 97, 0xA1, 0, 0] = .error (.truncated .entryLength) := by
  have hbroken : Composite.BrokenFrame [0xA1, 0, 0] (.truncated .entryLength) :=
    Composite.BrokenFrame.length headerOf_text (by decide)
  exact Composite.readsFrames.of_firstBroken
    ⟨_, _, _, rfl, ItemsOf.cons frameOf_tag ItemsOf.nil, hbroken⟩

theorem writes_tagAndText :
    List.Forall₂ (EntryWrites .standard) tagAndText
      [[(routeKey, .text "a")], [(routeKey, .text "b")]] := by
  have hlen : Utf8.length "a" = (1 : UInt8).toNat := rfl
  have htags : Routing.TagsOf [1, 97] ["a"] := ItemsOf.cons (Routing.TagOf.mk hlen) ItemsOf.nil
  have htag : MediaType.routing.sameFormat .routing = true := MediaType.sameFormat_refl _
  have htext : MediaType.textPlain.sameFormat .routing = false :=
    MediaType.sameFormat_of_folded MediaType.folded_textPlain MediaType.folded_routing
  have hrules : List.Forall₂ (RuleWrites (Utf8.encode "b"))
      (standard.asked .textPlain) [(routeKey, .text "b")] := by
    rw [asked_standard (MediaType.sameFormat_refl _)]
    exact List.Forall₂.cons ⟨rfl, TakenAs.text⟩ List.Forall₂.nil
  exact List.Forall₂.cons (Writes.route htag htags)
    (List.Forall₂.cons (Writes.rules htext hrules) List.Forall₂.nil)

/-- The text was written last and stays. Where it is cut off, the tag before it is not given
either. -/
theorem extract_tagAndText :
    standard.extract [0xFE, 0, 0, 2, 1, 97, 0xA1, 0, 0, 1, 98] .compositeMetadata
        = .ok (Dict.empty.insert routeKey (.text "b"))
      ∧ standard.extract [0xFE, 0, 0, 2, 1, 97, 0xA1, 0, 0, 1, 98] .compositeMetadata
        = tagAndText.foldlM (fun found e =>
            (standard.extract e.content e.mediaType).map found.override) .empty
      ∧ standard.extract [0xFE, 0, 0, 2, 1, 97, 0xA1, 0, 0] .compositeMetadata
        = .error (.truncated .entryLength) := by
  have hm : MediaType.compositeMetadata.sameFormat .compositeMetadata = true :=
    MediaType.sameFormat_refl _
  have hflat : ∀ e ∈ tagAndText, e.mediaType.sameFormat .compositeMetadata = false :=
    List.forall_mem_cons.mpr ⟨MediaType.sameFormat_of_folded MediaType.folded_routing
        MediaType.folded_compositeMetadata,
      List.forall_mem_singleton.mpr (MediaType.sameFormat_of_folded MediaType.folded_textPlain
        MediaType.folded_compositeMetadata)⟩
  obtain ⟨-, hvalues, hfold⟩ := (extract_merges_entries .standard _ _ hm).1 _ decode_tagAndText
  refine ⟨(hvalues _).mpr ⟨_, writes_tagAndText, fun name => ?_⟩, hfold hflat,
    (extract_merges_entries .standard _ _ hm).2 _ decode_cut_text⟩
  -- both writes are under `route`, and the text is the later one
  show _ = [(routeKey, MetadataValue.text "b"), (routeKey, .text "a")].lookup name
  rw [Dict.get?_insert, List.lookup_cons, List.lookup_cons, List.lookup_nil]
  by_cases hname : name = routeKey
  · rw [if_pos hname, beq_iff_eq.mpr hname]
  · rw [if_neg hname, beq_eq_false_iff_ne.mpr hname]
    rfl

end SocketStrategies.MetadataExtractor
