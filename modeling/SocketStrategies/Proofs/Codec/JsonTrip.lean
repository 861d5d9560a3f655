import SocketStrategies.Proofs.Codec.Structured
import SocketStrategies.Proofs.Json.Document
import SocketStrategies.Proofs.Json.Surroundings
import SocketStrategies.Proofs.Json.Utf8

/-!
# JSON gives back what it was given

A value is written as a tree that is plain, and that stands for the value. So whatever holds
of plain trees holds of encoded values: they are UTF-8 text, they are read with any blanks
around them, and with nothing else behind them. Only values that are written as a number can
be gone on with.
-/

namespace SocketStrategies

open Json (Blanks Tree)

namespace Schema

/-- Values that JSON keeps: those of all types but tables, and of JSON values those without real
numbers that are nested no deeper than can be read. -/
inductive Exact : (s : Schema) → s.Carrier → Prop where
  | text (v : String) : Exact .text v
  | word (v : UInt32) : Exact .word v
  | integer (v : Int64) : Exact .integer v
  | quote (v : Quote) : Exact .quote v
  | event (v : Event) : Exact .event v
  | document {v : Json.Document} :
      v.Exact → v.toTree.depth ≤ Json.Document.maxDepth → Exact .document v

/-- Whether a byte goes on with a value in front of it: a digit does so behind a number
other than zero. -/
def Extends (s : Schema) (v : s.Carrier) (c : UInt8) : Prop :=
  ∃ i, s.number? v = some i ∧ i ≠ 0 ∧ Decimal.isDigit c = true

theorem denotes_document {d : Json.Document} (h : d.Exact)
    (hdepth : d.toTree.depth ≤ Json.Document.maxDepth) :
    Denotes .document d d.toTree := by
  refine ⟨Json.Document.plain_toTree h, rfl, Json.Document.read?_toTree h hdepth, fun j hj => ?_⟩
  cases h with
  | integer i => exact congrArg some (Json.Numeral.ofInt_injective (Tree.number.inj hj))
  | null | bool _ | text _ | array _ | object _ _ => cases hj

theorem Exact.exists_denotes {s : Schema} {v : s.Carrier} (h : s.Exact v) :
    ∃ t, s.Denotes v t := by
  cases h with
  | text v => exact Schema.exists_denotes (s := .text) (by decide) (by decide) v
  | word v => exact Schema.exists_denotes (s := .word) (by decide) (by decide) v
  | integer v => exact Schema.exists_denotes (s := .integer) (by decide) (by decide) v
  | quote v => exact Schema.exists_denotes (s := .quote) (by decide) (by decide) v
  | event v => exact Schema.exists_denotes (s := .event) (by decide) (by decide) v
  | document hd hdepth => exact ⟨_, denotes_document hd hdepth⟩

namespace Denotes

variable {s : Schema} {v : s.Carrier} {t : Tree} {front back : Bytes}

theorem read?_within_blanks (h : s.Denotes v t) (hfront : Blanks front) (hback : Blanks back) :
    s.read? .json (front ++ (t.write ++ back)) = some v := by
  rw [read?, readJson, Json.read?_within_blanks h.plain hfront hback]
  exact h.read

theorem read?_of_one_more (h : s.Denotes v t) (hfront : Blanks front) {c : UInt8}
    (hc : Json.isBlank c = false) (hextends : ¬ s.Extends v c) :
    s.read? .json (front ++ (t.write ++ [c])) = none := by
  have hdigit : ∀ i, t = .number (.ofInt i) → i = 0 ∨ Decimal.isDigit c = false := by
    intro i hi
    by_contra hno
    obtain ⟨hzero, hisDigit⟩ := not_or.mp hno
    exact hextends ⟨i, h.number i hi, hzero, Bool.of_not_eq_false hisDigit⟩
  rw [read?, readJson, Json.read?_of_one_more h.plain hfront hc hdigit]
  rfl

/-- Bytes behind a number are apart from it by a blank, or by starting as no part of a number. -/
theorem read?_of_more (h : s.Denotes v t) (hfront : Blanks front) (hback : Blanks back) {c : UInt8}
    (hc : Json.isBlank c = false)
    (hapart : s.number? v ≠ none → back ≠ [] ∨ Decimal.isDigit c = false ∧ c ∉ [46, 101, 69])
    (rest : Bytes) :
    s.read? .json (front ++ (t.write ++ (back ++ c :: rest))) = none := by
  have hend : t.EndsBefore (back ++ c :: rest) := by
    intro n hn
    subst hn
    refine Json.endsAt_append_of_blanks hback fun hnil => ?_
    have hnumber : s.number? v ≠ none := by
      cases h.plain with
      | number i =>
          rw [h.number i rfl]
          exact Option.some_ne_none i
    rcases hapart hnumber with hblank | ⟨hdigit, hletter⟩
    · exact absurd hnil hblank
    · simp only [List.mem_cons, List.not_mem_nil, or_false, not_or] at hletter
      exact Json.Numeral.endsAt_cons ⟨hdigit, hletter⟩ rest
  rw [read?, readJson, Json.read?_of_more h.plain hfront hback hc hend]
  rfl

end Denotes

end Schema

/--
**The JSON codec gives values back, with blanks around them, and takes nothing else behind them.**
For every value that JSON keeps there are bytes such that:

* an encoder of the type writes these bytes, whichever factory it takes its buffer from;
* they are UTF-8 text;
* a decoder of the type makes the value of them, with any blanks in front and behind;
* it says that decoding failed if one byte follows that is no blank, unless this byte goes
  on with the value;
* it says so too if more follows, unless the value is a number and a digit, a point or the letter
  of an exponent stands right behind it.

Texts, quotes and events are no numbers, so nothing goes on with them. The encoder may be asked
for any format that is compatible with its own, and the decoder for any that is compatible with
one it advertises.
-/
theorem json_roundTrip_within_blanks {s : Schema} {v : s.Carrier} (hv : s.Exact v)
    {advertised : List MediaType} {format format' : Option MediaType}
    (hformat : supports [WireFormat.json.mediaType] format = true)
    (hformat' : supports advertised format' = true) :
    ∃ b : Bytes,
      (∀ f, ((Encoder.structured .json s).encode ⟨.schema s, v⟩ format f).1.map Buffer.freeze
        = .ok b)
      ∧ Utf8.IsText b
      ∧ (∀ front back, Blanks front → Blanks back →
          (Decoder.structured .json s advertised).decodeTo (.schema s)
            (front ++ (b ++ back)) format' = .ok v)
      ∧ (∀ front c, Blanks front → Json.isBlank c = false → ¬ s.Extends v c →
          (Decoder.structured .json s advertised).decodeTo (.schema s)
            (front ++ (b ++ [c])) format'
            = .error (.decode WireFormat.json.fullName))
      ∧ ∀ front back c rest, Blanks front → Blanks back → Json.isBlank c = false →
          (s.number? v ≠ none → back ≠ [] ∨ Decimal.isDigit c = false ∧ c ∉ [46, 101, 69]) →
          (Decoder.structured .json s advertised).decodeTo (.schema s)
            (front ++ (b ++ (back ++ c :: rest))) format'
            = .error (.decode WireFormat.json.fullName) := by
  obtain ⟨t, ht⟩ := hv.exists_denotes
  refine ⟨t.write, Encoder.encode_of_write hformat ht.write, Json.isText_write ht.plain,
    ?_, ?_, ?_⟩
  · intro front back hfront hback
    exact Decoder.decodeTo_of_read hformat' (ht.read?_within_blanks hfront hback)
  · intro front c hfront hc hextends
    exact Decoder.decodeTo_of_read_eq_none hformat' (ht.read?_of_one_more hfront hc hextends)
  · intro front back c rest hfront hback hc hapart
    exact Decoder.decodeTo_of_read_eq_none hformat' (ht.read?_of_more hfront hback hc hapart rest)

/-- An object with a list in it. -/
def nestedDocument : Json.Document := .object [("é", .array [.integer ⟨-7, by decide⟩, .null])]

/-- The object is written without blanks. It is decoded with a line break in front of it and a
blank behind it, and not with a digit behind it. -/
theorem json_roundTrip_nested :
    ((Encoder.structured .json .document).encode ⟨.schema .document, nestedDocument⟩ none
          (.new .heap)).1.map Buffer.freeze
        = .ok (Utf8.encode "\x7b\"é\":[-7,null]\x7d")
      ∧ (Decoder.ofSchema .json .document).decodeTo (.schema .document)
            (10 :: Utf8.encode "\x7b\"é\":[-7,null]\x7d" ++ [32]) none
          = .ok nestedDocument
      ∧ (Decoder.ofSchema .json .document).decodeTo (.schema .document)
            (Utf8.encode "\x7b\"é\":[-7,null]\x7d" ++ [49]) none
          = .error (.decode WireFormat.json.fullName) := by
  have hexact : nestedDocument.Exact := by
    refine .object (List.pairwise_singleton _ _) fun f hf => ?_
    obtain rfl := List.mem_singleton.mp hf
    refine .array fun d hd => ?_
    rcases List.mem_cons.mp hd with rfl | hd
    · exact .integer _
    · obtain rfl := List.mem_singleton.mp hd
      exact .null
  have hnone : ∀ formats, supports formats none = true := fun _ => rfl
  obtain ⟨b, hencode, -, hdecode, hone, -⟩ :=
    json_roundTrip_within_blanks (.document hexact (by decide)) (hnone _)
    (hnone [WireFormat.json.mediaType])
  have hb : b = Utf8.encode "\x7b\"é\":[-7,null]\x7d" := by
    have hwrite := (hencode (.new .heap)).symm.trans (Encoder.encode_of_write (hnone _) rfl _)
    rw [Except.ok.inj hwrite]
    decide +kernel
  subst hb
  refine ⟨hencode _, hdecode [10] [32] (by decide) (by decide),
    hone [] 49 (by decide) (by decide) ?_⟩
  rintro ⟨i, hi, -⟩
  cases hi

end SocketStrategies
