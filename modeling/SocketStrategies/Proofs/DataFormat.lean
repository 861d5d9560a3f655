import Mathlib.Data.List.Induction
import Mathlib.Data.List.Nodup
import Mathlib.Logic.Relation
import SocketStrategies.Codec.DataFormat
import SocketStrategies.Proofs.MediaType.Equality
import SocketStrategies.Proofs.Text.Caseless

/-!
# The data format depends on what the decoders stand for, and on nothing else

`resolve` runs two loops. One collects the formats that decoders stand for, leaving out those it
has already; the other, where nothing was collected, looks through all formats for a concrete one.
This file says what the two come to.

* The first loop is `represented`: the first telling format of each decoder, stripped to type and
  subtype, and of equal ones the first.
* The second loop can find only plain text. A concrete format that is not plain text tells
  something, and then the first loop would not have come up empty.

So the outcome is a function of `represented`, the `verdict` on it. Moving decoders about,
repeating them and adding some that tell nothing changes at most the order of `represented`, and a
verdict does not hang on that order.
-/

namespace SocketStrategies.DataFormat

/-! ## What the decoders stand for -/

/-- Whether a format tells something about the data: it is concrete and neither plain
text nor `*/*`. -/
def Telling (m : MediaType) : Prop :=
  m.isConcrete = true ∧ m.sameFormat .textPlain = false ∧ m.sameFormat .any = false

instance : DecidablePred Telling := fun _ => inferInstanceAs (Decidable (_ ∧ _ ∧ _))

/-- The first telling format of a decoder, without its parameters and in lower case. -/
def standsFor? (d : Decoder) : Option MediaType :=
  (d.mediaTypes.find? fun m => Telling m).map MediaType.bare

/-- What the decoders stand for, first to last, each format only where it first comes up. -/
def represented (ds : List Decoder) : List MediaType := (ds.filterMap standsFor?).eraseDups

/-- What is decided when the decoders stand for these formats. -/
def verdict : List MediaType → Except Ambiguous MediaType
  | [] => .ok .textPlain
  | [m] => .ok m
  | several => .error ⟨several⟩

theorem isDefault_eq_false_iff {m : MediaType} :
    isDefault m = false ↔ m.sameFormat .textPlain = false ∧ m.sameFormat .any = false := by
  unfold isDefault defaults
  rw [List.any_cons, List.any_cons, List.any_nil, Bool.or_false, Bool.or_eq_false_iff,
    MediaType.sameFormat_comm .textPlain, MediaType.sameFormat_comm .any]

theorem telling_iff {m : MediaType} :
    Telling m ↔ (m.isConcrete && !isDefault m) = true := by
  rw [Bool.and_eq_true, Bool.not_eq_true', isDefault_eq_false_iff]
  rfl

theorem distinguishing?_eq (d : Decoder) : distinguishing? d = standsFor? d := by
  unfold distinguishing? standsFor?
  congr 2
  funext m
  rw [Bool.eq_iff_iff, decide_eq_true_iff, telling_iff]

/-- Whatever a decoder stands for is bare. -/
theorem bare_of_standsFor? {d : Decoder} {m : MediaType} (h : standsFor? d = some m) :
    m.bare = m := by
  obtain ⟨m', -, rfl⟩ := Option.map_eq_some_iff.mp h
  exact MediaType.bare_bare m'

theorem standsFor?_eq_none_iff {d : Decoder} :
    standsFor? d = none ↔ ∀ m ∈ d.mediaTypes, ¬ Telling m := by
  unfold standsFor?
  rw [Option.map_eq_none_iff, List.find?_eq_none]
  simp only [decide_eq_true_eq]

theorem mem_represented {ds : List Decoder} {m : MediaType} :
    m ∈ represented ds ↔ ∃ d ∈ ds, standsFor? d = some m := by
  unfold represented
  rw [List.mem_eraseDups, List.mem_filterMap]

/-! ## The first loop keeps first occurrences -/

section FirstOccurrences

variable {α : Type} [DecidableEq α]

theorem eraseDups_concat (l : List α) (x : α) :
    (l ++ [x]).eraseDups = if x ∈ l then l.eraseDups else l.eraseDups ++ [x] := by
  rw [List.eraseDups_append]
  by_cases h : x ∈ l
  · have he : [x].removeAll l = [] := by simp [List.removeAll, h]
    rw [he, if_pos h, List.eraseDups_nil, List.append_nil]
  · have he : [x].removeAll l = [x] := by simp [List.removeAll, h]
    rw [he, if_neg h]
    rfl

theorem nodup_eraseDups (l : List α) : l.eraseDups.Nodup := by
  induction l using List.reverseRecOn with
  | nil => exact List.nodup_nil
  | append_singleton l x ih =>
      rw [eraseDups_concat]
      by_cases h : x ∈ l
      · rw [if_pos h]
        exact ih
      · rw [if_neg h]
        refine List.nodup_append.mpr ⟨ih, List.nodup_singleton x, fun a ha b hb => ?_⟩
        rw [List.mem_singleton.mp hb]
        rintro rfl
        exact h (List.mem_eraseDups.mp ha)

end FirstOccurrences

theorem nodup_represented (ds : List Decoder) : (represented ds).Nodup := nodup_eraseDups _

/-- On bare formats, looking for an equivalent one is looking for the format itself. -/
theorem addNew_eraseDups {l : List MediaType} {m : MediaType} (hl : ∀ x ∈ l, x.bare = x)
    (hm : m.bare = m) : addNew l.eraseDups m = (l ++ [m]).eraseDups := by
  have hseen : (l.eraseDups.any fun s => s.equivalent m) = true ↔ m ∈ l := by
    rw [List.any_eq_true]
    constructor
    · rintro ⟨x, hx, he⟩
      rw [List.mem_eraseDups] at hx
      rw [← hl x hx, ← hm, MediaType.equivalent_bare_iff, hl x hx, hm] at he
      exact he ▸ hx
    · intro h
      exact ⟨m, List.mem_eraseDups.mpr h, MediaType.equivalent_refl m⟩
  unfold addNew
  rw [eraseDups_concat]
  by_cases h : m ∈ l
  · rw [if_pos (hseen.mpr h), if_pos h]
  · rw [if_neg (fun he => h (hseen.mp he)), if_neg h]

/-- The loop, started with the formats of an earlier stretch of decoders. -/
theorem foldl_addNew {l : List MediaType} (hl : ∀ x ∈ l, x.bare = x) (seen : List MediaType)
    (hs : ∀ x ∈ seen, x.bare = x) :
    l.foldl addNew seen.eraseDups = (seen ++ l).eraseDups := by
  -- on the formats still to come, whatever came before
  induction l generalizing seen with
  | nil => rw [List.foldl_nil, List.append_nil]
  | cons m l ih =>
      obtain ⟨hm, hl⟩ := List.forall_mem_cons.mp hl
      have hs' : ∀ x ∈ seen ++ [m], x.bare = x := by
        intro x hx
        rcases List.mem_append.mp hx with hx | hx
        · exact hs x hx
        · exact List.mem_singleton.mp hx ▸ hm
      rw [List.foldl_cons, addNew_eraseDups hs hm, ih hl (seen ++ [m]) hs', List.append_assoc,
        List.singleton_append]

theorem candidates_eq_represented (ds : List Decoder) : candidates ds = represented ds := by
  have hbare : ∀ x ∈ ds.filterMap standsFor?, x.bare = x := by
    intro x hx
    obtain ⟨d, -, hd⟩ := List.mem_filterMap.mp hx
    exact bare_of_standsFor? hd
  unfold candidates represented
  rw [funext distinguishing?_eq]
  exact foldl_addNew hbare [] (fun _ h => absurd h List.not_mem_nil)

/-! ## The second loop finds plain text or nothing -/

theorem isWildcardType_of_sameFormat_any {m : MediaType} (h : m.sameFormat .any = true) :
    m.isWildcardType = true := by
  have hstar : Text.lower m.mainType = "*" :=
    (MediaType.sameFormat_iff.mp h).1.trans (Text.lower_eq_self rfl)
  rw [MediaType.isWildcardType, Text.eq_of_lower_eq hstar (by simp)]
  rfl

/-- A concrete format that tells nothing is plain text. -/
theorem sameFormat_textPlain_of_not_telling {m : MediaType} (hc : m.isConcrete = true)
    (ht : ¬ Telling m) : m.sameFormat .textPlain = true := by
  by_contra hp
  refine ht ⟨hc, Bool.not_eq_true _ ▸ hp, ?_⟩
  rw [← Bool.not_eq_true]
  intro hany
  rw [MediaType.isConcrete, isWildcardType_of_sameFormat_any hany] at hc
  exact Bool.noConfusion hc

theorem bare_of_sameFormat_textPlain {m : MediaType} (h : m.sameFormat .textPlain = true) :
    m.bare = .textPlain := by
  rw [MediaType.bare_eq_bare_iff.mpr h]
  unfold MediaType.bare MediaType.make MediaType.textPlain MediaType.verbatim
  rw [Text.lower_eq_self (s := "text") rfl, Text.lower_eq_self (s := "plain") rfl]

/-- If no decoder stands for anything, plain text is the only concrete format there is. -/
theorem firstConcrete?_of_represented_eq_nil {ds : List Decoder} (h : represented ds = []) :
    (firstConcrete? ds).getD .textPlain = .textPlain := by
  unfold firstConcrete?
  cases hf : (ds.flatMap Decoder.mediaTypes).find? MediaType.isConcrete with
  | none => rfl
  | some m =>
      -- the decoder it comes from stands for nothing, so it is none of the telling formats
      obtain ⟨d, hd, hm⟩ := List.mem_flatMap.mp (List.mem_of_find?_eq_some hf)
      have hnone : standsFor? d = none := by
        rw [Option.eq_none_iff_forall_ne_some]
        intro m' hm'
        have hmem : m' ∈ represented ds := mem_represented.mpr ⟨d, hd, hm'⟩
        rw [h] at hmem
        exact List.not_mem_nil hmem
      have hplain := sameFormat_textPlain_of_not_telling (List.find?_some hf)
        (standsFor?_eq_none_iff.mp hnone m hm)
      exact bare_of_sameFormat_textPlain hplain

theorem resolve_eq_verdict (ds : List Decoder) : resolve ds = verdict (represented ds) := by
  unfold resolve
  rw [candidates_eq_represented]
  cases h : represented ds with
  | nil => rw [firstConcrete?_of_represented_eq_nil h]; rfl
  | cons m ms =>
      cases ms with
      | nil => rfl
      | cons m' ms => rfl

/-! ## What cannot change the outcome -/

/-- Whether a decoder tells nothing: each of its formats is plain text or a wildcard. -/
def Silent (d : Decoder) : Prop :=
  ∀ m ∈ d.mediaTypes, m.sameFormat .textPlain = true ∨ m.isConcrete = false

/-- One rearrangement of decoders that does not touch what they stand for. -/
inductive Rearranged : List Decoder → List Decoder → Prop where
  /-- The decoders change places. -/
  | permuted {ds ds' : List Decoder} : ds.Perm ds' → Rearranged ds ds'
  /-- A decoder is there once more, anywhere. -/
  | repeated {d : Decoder} {front back : List Decoder} :
      d ∈ front ++ back → Rearranged (front ++ back) (front ++ d :: back)
  /-- Decoders that tell nothing are put in, anywhere. -/
  | padded {silent front back : List Decoder} :
      (∀ d ∈ silent, Silent d) → Rearranged (front ++ back) (front ++ silent ++ back)

/-- The same format, or an error that names the same formats, each once. -/
def SameOutcome : Except Ambiguous MediaType → Except Ambiguous MediaType → Prop
  | .ok m, .ok m' => m = m'
  | .error e, .error e' => e.formats.Perm e'.formats
  | _, _ => False

theorem standsFor?_of_silent {d : Decoder} (h : Silent d) : standsFor? d = none := by
  rw [standsFor?_eq_none_iff]
  rintro m hm ⟨hc, hp, -⟩
  rcases h m hm with ht | hw
  · rw [ht] at hp
    exact Bool.noConfusion hp
  · rw [hw] at hc
    exact Bool.noConfusion hc

theorem mem_represented_iff_of_rearranged {ds ds' : List Decoder} (h : Rearranged ds ds')
    (m : MediaType) : m ∈ represented ds ↔ m ∈ represented ds' := by
  rw [mem_represented, mem_represented]
  cases h with
  | permuted hp => simp only [hp.mem_iff]
  | @repeated d front back hd =>
      -- once more makes no difference to what is in the list
      have hmem : ∀ d', d' ∈ front ++ d :: back ↔ d' ∈ front ++ back := by
        intro d'
        rw [List.perm_middle.mem_iff, List.mem_cons, or_iff_right_of_imp]
        rintro rfl
        exact hd
      simp only [hmem]
  | @padded silent front back hs =>
      -- what is put in stands for nothing, so it is never the one that stands for `m`
      constructor
      · rintro ⟨d, hd, hm⟩
        rw [List.mem_append] at hd
        refine ⟨d, ?_, hm⟩
        rw [List.append_assoc, List.mem_append, List.mem_append]
        exact hd.imp_right Or.inr
      · rintro ⟨d, hd, hm⟩
        refine ⟨d, ?_, hm⟩
        rw [List.append_assoc, List.mem_append, List.mem_append] at hd
        rcases hd with hd | hd | hd
        · exact List.mem_append_left _ hd
        · rw [standsFor?_of_silent (hs d hd)] at hm
          exact absurd hm (by simp)
        · exact List.mem_append_right _ hd

theorem represented_perm {ds ds' : List Decoder} (h : Relation.ReflTransGen Rearranged ds ds') :
    (represented ds).Perm (represented ds') := by
  -- neither list names a format twice, so it is enough that they name the same ones
  rw [List.perm_ext_iff_of_nodup (nodup_represented ds) (nodup_represented ds')]
  intro m
  induction h with
  | refl => exact Iff.rfl
  | tail _ hs ih => exact ih.trans (mem_represented_iff_of_rearranged hs m)

/-- A verdict does not hang on the order of the formats. -/
theorem sameOutcome_verdict {l l' : List MediaType} (h : l.Perm l') :
    SameOutcome (verdict l) (verdict l') := by
  have hlen := h.length_eq
  match l, l' with
  | [], [] => rfl
  | [m], [m'] => exact List.singleton_perm_singleton.mp h
  | _ :: _ :: _, _ :: _ :: _ => exact h
  -- lists of different lengths are no rearrangements of each other
  | [], _ :: _ => simp at hlen
  | [_], [] => simp at hlen
  | [_], _ :: _ :: _ => simp at hlen
  | _ :: _ :: _, [] => simp at hlen
  | _ :: _ :: _, [_] => simp at hlen

/--
**The law of default formats.** What is decided is settled by the formats that the decoders
stand for: none, and it is plain text whatever else they advertise; one, and it is that one;
several, and all of them are named in order. No rearrangement that leaves these formats alone
makes a difference.
-/
theorem resolve_exact (ds : List Decoder) :
    (represented ds = [] → resolve ds = .ok .textPlain)
      ∧ (∀ m, represented ds = [m] → resolve ds = .ok m)
      ∧ (2 ≤ (represented ds).length → resolve ds = .error ⟨represented ds⟩)
      ∧ ∀ ds', Relation.ReflTransGen Rearranged ds ds' →
          SameOutcome (resolve ds) (resolve ds') := by
  rw [resolve_eq_verdict]
  refine ⟨fun h => by rw [h]; rfl, fun m h => by rw [h]; rfl, fun h => ?_, fun ds' h => ?_⟩
  · match hr : represented ds with
    | [] => rw [hr] at h; simp at h
    | [_] => rw [hr] at h; simp at h
    | _ :: _ :: _ => rfl
  · rw [resolve_eq_verdict]
    exact sameOutcome_verdict (represented_perm h)

end SocketStrategies.DataFormat
