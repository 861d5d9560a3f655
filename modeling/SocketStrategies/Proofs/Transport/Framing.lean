import Mathlib.Algebra.Group.Nat.Defs
import SocketStrategies.Proofs.Bytes
import SocketStrategies.Transport.Framing

/-!
# What a byte stream holds

`Holds` reads a whole stream at once: frames that are not too long, one after the other, and what
is wrong with the rest, if anything is. A reader sees the stream in chunks. Between two frames it
is no more than the bytes it has not used (`Reader.between`), and a reader inside a frame goes on
like one that has read nothing of that frame (`Reader.next_eq_between`). So where the stream is
cut does not matter: the next frame is the first that the stream holds, and what follows it is
all still there.
-/

namespace SocketStrategies.Framing

/-- A frame as it stands on a stream. -/
def packed (frame : Bytes) : Bytes := Bytes.bigEndian lengthBytes frame.length ++ frame

theorem length_packed (frame : Bytes) : (packed frame).length = lengthBytes + frame.length := by
  rw [packed, List.length_append, Bytes.length_bigEndian]

theorem write_of_le {limit : Nat} {frame : Bytes} (h : frame.length ≤ limit) :
    write limit frame = .ok (packed frame) := if_neg (Nat.not_lt.mpr h)

/-- Bytes in which a frame has begun or is about to begin, and which say nothing that is wrong. -/
inductive Incomplete (limit : Nat) : Bytes → Prop where
  | length {b : Bytes} : b.length < lengthBytes → Incomplete limit b
  | content {n : Nat} {part : Bytes} : n ≤ limit → part.length < n →
      Incomplete limit (Bytes.bigEndian lengthBytes n ++ part)

/-- What is wrong with a stream that ends there. A length that has just arrived leaves nothing
over. -/
def cutFault (b : Bytes) : Option FrameFault :=
  if b = [] ∨ b.length = lengthBytes then none else some .unfinished

theorem cutFault_eq_none {b : Bytes} : cutFault b = none ↔ b = [] ∨ b.length = lengthBytes := by
  rw [cutFault]
  split <;> simp [*]

theorem cutFault_eq_some {b : Bytes} {fault : FrameFault} :
    cutFault b = some fault ↔ ¬(b = [] ∨ b.length = lengthBytes) ∧ fault = .unfinished := by
  rw [cutFault]
  split
  · simp only [*, not_true_eq_false, false_and, reduceCtorEq]
  · simp only [*, not_false_eq_true, true_and, Option.some.injEq]
    exact eq_comm

/-- The frames that can be read off a stream, and the fault that ends it, if there is one. -/
inductive Holds (limit : Nat) :
    (stream : Bytes) → (frames : List Bytes) → Option FrameFault → Prop where
  | frame {frame rest : Bytes} {frames : List Bytes} {fault : Option FrameFault} :
      frame.length ≤ limit → Holds limit rest frames fault →
      Holds limit (packed frame ++ rest) (frame :: frames) fault
  | tooLong {n : Nat} {rest : Bytes} : limit < n → n < 256 ^ lengthBytes →
      Holds limit (Bytes.bigEndian lengthBytes n ++ rest) [] (some .incomingTooLong)
  | cut {b : Bytes} : Incomplete limit b → Holds limit b [] (cutFault b)

section

variable {limit : Nat} {b y rest frame : Bytes}

/-- The front of bytes that begin with a length is too short for one, or begins with it too. -/
theorem short_or_length {n : Nat} (h : b ++ y = Bytes.bigEndian lengthBytes n ++ rest) :
    b.length < lengthBytes ∨ ∃ part, b = Bytes.bigEndian lengthBytes n ++ part
      ∧ part ++ y = rest := by
  rcases List.append_eq_append_iff.mp h with ⟨x, hx, hy⟩ | ⟨x, hx, hy⟩
  · have hlen : b.length + x.length = lengthBytes := by
      rw [← List.length_append, ← hx, Bytes.length_bigEndian]
    rcases Nat.lt_or_ge b.length lengthBytes with hb | hb
    · exact .inl hb
    · have hnil : x = [] := List.eq_nil_of_length_eq_zero (by omega)
      subst hnil
      exact .inr ⟨[], by simpa using hx.symm, hy⟩
  · exact .inr ⟨x, hx, hy.symm⟩

/-- Bytes that are not too short for a length begin with one. -/
theorem exists_length (h : lengthBytes ≤ b.length) :
    ∃ n part, n < 256 ^ lengthBytes ∧ b = Bytes.bigEndian lengthBytes n ++ part := by
  have htake : (b.take lengthBytes).length = lengthBytes := List.length_take_of_le h
  have hfits := Bytes.ofBigEndian_lt (b.take lengthBytes)
  have hback := Bytes.bigEndian_ofBigEndian (b.take lengthBytes)
  rw [htake] at hfits hback
  exact ⟨_, b.drop lengthBytes, hfits, by rw [hback, List.take_append_drop]⟩

namespace Incomplete

theorem nil : Incomplete limit [] := .length (by decide)

theorem of_append (h : Incomplete limit (b ++ y)) : Incomplete limit b := by
  generalize hw : b ++ y = whole at h
  cases h with
  | length hlen =>
      refine .length ?_
      rw [← hw, List.length_append] at hlen
      omega
  | content hn hpart =>
      rcases short_or_length hw with hshort | ⟨front, rfl, rfl⟩
      · exact .length hshort
      · refine .content hn ?_
        rw [List.length_append] at hpart
        omega

theorem of_packed (hframe : frame.length ≤ limit) (hy : y ≠ []) (h : b ++ y = packed frame) :
    Incomplete limit b := by
  rcases short_or_length h with hshort | ⟨front, rfl, rfl⟩
  · exact .length hshort
  · refine .content hframe ?_
    rw [List.length_append]
    exact Nat.lt_add_of_pos_right (List.length_pos_iff.mpr hy)

end Incomplete

/-! ## Streams of packed frames -/

/-- What is wrong with a stream that ends inside a frame. -/
def partFault (limit : Nat) (frame part : Bytes) : Option FrameFault :=
  if lengthBytes ≤ part.length ∧ limit < frame.length then some .incomingTooLong else cutFault part

theorem holds_append {frames more : List Bytes} {fault : Option FrameFault}
    (hframes : ∀ f ∈ frames, f.length ≤ limit) (h : Holds limit rest more fault) :
    Holds limit (frames.flatMap packed ++ rest) (frames ++ more) fault := by
  induction frames with
  | nil => exact h
  | cons frame frames ih =>
      rw [List.flatMap_cons, List.append_assoc]
      exact .frame (hframes frame List.mem_cons_self) (ih fun f hf => hframes f (.tail _ hf))

/-- A stream that ends inside a frame holds nothing of that frame. -/
theorem holds_part (hfits : frame.length < 256 ^ lengthBytes) (hy : y ≠ [])
    (h : b ++ y = packed frame) :
    Holds limit b [] (partFault limit frame b) := by
  rw [partFault]
  split
  · rename_i hlong
    rcases short_or_length h with hshort | ⟨part, rfl, -⟩
    · omega
    · exact .tooLong hlong.2 hfits
  · rename_i hlong
    rcases Nat.lt_or_ge b.length lengthBytes with hshort | hlen
    · exact .cut (.length hshort)
    · exact .cut (.of_packed (by omega) hy h)

/-! ## A reader and the bytes it has not used -/

namespace Reader

/-- A reader between two frames. -/
def between (b : Bytes) : Reader := ⟨.length, b⟩

/-- The bytes from the beginning of the frame that is being read. -/
def unread (r : Reader) : Bytes :=
  match r.expecting with
  | .length => r.left
  | .content n => Bytes.bigEndian lengthBytes n ++ r.left

/-- Whether only frames that are not too long are begun. -/
def Sound (limit : Nat) (r : Reader) : Prop := ∀ n, r.expecting = .content n → n ≤ limit

theorem sound_between : (between b).Sound limit := by
  intro n hn
  cases hn

theorem Sound.push {r : Reader} (h : r.Sound limit) (chunk : Bytes) :
    (r.push chunk).Sound limit := h

theorem unread_push (r : Reader) (chunk : Bytes) : (r.push chunk).unread = r.unread ++ chunk := by
  obtain ⟨expecting, left⟩ := r
  cases expecting with
  | length => rfl
  | content n => exact (List.append_assoc _ left chunk).symm

theorem takeContent_append (frame rest : Bytes) :
    takeContent frame.length (frame ++ rest) = (some frame, between rest) := by
  rw [takeContent, Bytes.take?_append]
  rfl

theorem takeContent_of_lt {n : Nat} (h : b.length < n) :
    takeContent n b = (none, ⟨.content n, b⟩) := by
  rw [takeContent, Bytes.take?_of_lt h]

theorem take_of_length {n : Nat} (hn : n < 256 ^ lengthBytes) :
    (between (Bytes.bigEndian lengthBytes n ++ b)).take limit
      = if limit < n then .error .incomingTooLong else .ok (takeContent n b) := by
  have hsplit := Bytes.take?_append (Bytes.bigEndian lengthBytes n) b
  rw [Bytes.length_bigEndian] at hsplit
  simp only [take, between, hsplit, Bytes.ofBigEndian_bigEndian hn]

theorem take_of_lt (h : b.length < lengthBytes) :
    (between b).take limit = .ok (none, between b) := by
  simp only [take, between, Bytes.take?_of_lt h]

variable (hlimit : limit < 256 ^ lengthBytes)
include hlimit

/-- A reader inside a frame takes what one would take that starts that frame again. -/
theorem take_eq_between {r : Reader} (h : r.Sound limit) :
    r.take limit = (between r.unread).take limit := by
  obtain ⟨expecting, left⟩ := r
  cases expecting with
  | length => rfl
  | content n =>
      have hn : n ≤ limit := h n rfl
      exact ((take_of_length (by omega)).trans (if_neg (Nat.not_lt.mpr hn))).symm

theorem next_eq_between {r : Reader} (h : r.Sound limit) (chunks : List Bytes) :
    r.next limit chunks = (between r.unread).next limit chunks := by
  cases chunks with
  | nil => rw [next, next, take_eq_between hlimit h]
  | cons chunk chunks => rw [next, next, take_eq_between hlimit h]

theorem take_packed (hframe : frame.length ≤ limit) :
    (between (packed frame ++ rest)).take limit = .ok (some frame, between rest) := by
  rw [packed, List.append_assoc, take_of_length (by omega), if_neg (Nat.not_lt.mpr hframe),
    takeContent_append]

theorem take_incomplete (h : Incomplete limit b) :
    ∃ r, (between b).take limit = .ok (none, r) ∧ r.unread = b ∧ r.Sound limit
      ∧ (r.left = [] ↔ b = [] ∨ b.length = lengthBytes) := by
  cases h with
  | length hlen =>
      refine ⟨between b, take_of_lt hlen, rfl, sound_between, ?_⟩
      show b = [] ↔ _
      rw [or_iff_left (Nat.ne_of_lt hlen)]
  | @content n part hn hpart =>
      have hfits : n < 256 ^ lengthBytes := by omega
      have htake : (between (Bytes.bigEndian lengthBytes n ++ part)).take limit
          = .ok (none, ⟨.content n, part⟩) := by
        rw [take_of_length hfits, if_neg (Nat.not_lt.mpr hn), takeContent_of_lt hpart]
      have hsound : Reader.Sound limit ⟨.content n, part⟩ := by
        intro m hm
        cases hm
        exact hn
      refine ⟨_, htake, rfl, hsound, ?_⟩
      -- the length has been used, so only the content that has arrived is left over
      have hhead : (Bytes.bigEndian lengthBytes n).length = lengthBytes :=
        Bytes.length_bigEndian _ _
      rw [List.append_eq_nil_iff, List.length_append, hhead, Nat.add_eq_left,
        List.length_eq_zero_iff]
      exact ⟨.inr, fun h => h.elim And.right id⟩

/-! ## The next frame -/

theorem next_incomplete (h : Incomplete limit b) (chunk : Bytes) (chunks : List Bytes) :
    (between b).next limit (chunk :: chunks) = (between (b ++ chunk)).next limit chunks := by
  obtain ⟨r, htake, rfl, hr, -⟩ := take_incomplete hlimit h
  rw [next, htake, ← unread_push]
  exact next_eq_between hlimit (hr.push chunk) chunks

/-- A stream without a frame is taken in to its end. -/
theorem next_incomplete_flatten {chunks : List Bytes}
    (h : Incomplete limit (b ++ chunks.flatten)) :
    (between b).next limit chunks = (between (b ++ chunks.flatten)).next limit [] := by
  induction chunks generalizing b with
  | nil => rw [List.flatten_nil, List.append_nil]
  | cons chunk chunks ih =>
      rw [List.flatten_cons, ← List.append_assoc] at h ⊢
      rw [next_incomplete hlimit h.of_append.of_append, ih h]

theorem next_cut {chunks : List Bytes} (h : Incomplete limit (b ++ chunks.flatten))
    (hcut : cutFault (b ++ chunks.flatten) = none) :
    ∃ r, (between b).next limit chunks = .ok (none, r, []) := by
  obtain ⟨r, htake, -, -, hleft⟩ := take_incomplete hlimit h
  have hnil : r.left = [] := hleft.mpr (cutFault_eq_none.mp hcut)
  refine ⟨r, ?_⟩
  rw [next_incomplete_flatten hlimit h, next, htake]
  simp only [hnil, List.isEmpty_nil, if_true]

theorem next_cut_fault {chunks : List Bytes} {fault : FrameFault}
    (h : Incomplete limit (b ++ chunks.flatten))
    (hcut : cutFault (b ++ chunks.flatten) = some fault) :
    (between b).next limit chunks = .error fault := by
  obtain ⟨r, htake, -, -, hleft⟩ := take_incomplete hlimit h
  obtain ⟨hne, rfl⟩ := cutFault_eq_some.mp hcut
  rw [next_incomplete_flatten hlimit h, next, htake]
  simp only [List.isEmpty_iff, mt hleft.mp hne, if_false]

/-- Where the chunks end does not matter: the next frame of the stream is read, and the
rest of it is left. -/
theorem next_frame {chunks : List Bytes} (hframe : frame.length ≤ limit)
    (h : b ++ chunks.flatten = packed frame ++ rest) :
    ∃ b' chunks', (between b).next limit chunks = .ok (some frame, between b', chunks')
      ∧ b' ++ chunks'.flatten = rest := by
  have hall : ∀ b' chunks', (between (packed frame ++ b')).next limit chunks'
      = .ok (some frame, between b', chunks') := by
    intro b' chunks'
    cases chunks' with
    | nil => rw [next, take_packed hlimit hframe]
    | cons chunk chunks' => rw [next, take_packed hlimit hframe]
  -- either the whole frame is at hand or another chunk is needed
  induction chunks generalizing b with
  | nil =>
      rw [List.flatten_nil, List.append_nil] at h
      subst h
      exact ⟨rest, [], hall rest [], List.append_nil rest⟩
  | cons chunk chunks ih =>
      rcases List.append_eq_append_iff.mp h with ⟨missing, hpacked, -⟩ | ⟨b', rfl, hrest⟩
      · by_cases hm : missing = []
        · subst hm
          rw [List.append_nil] at hpacked
          subst hpacked
          have hb := hall [] (chunk :: chunks)
          rw [List.append_nil] at hb
          exact ⟨[], chunk :: chunks, hb, List.append_cancel_left h⟩
        · rw [next_incomplete hlimit (.of_packed hframe hm hpacked.symm)]
          rw [List.flatten_cons, ← List.append_assoc] at h
          exact ih h
      · exact ⟨b', chunk :: chunks, hall b' _, hrest.symm⟩

theorem next_tooLong {n : Nat} {chunks : List Bytes} (hn : limit < n)
    (hfits : n < 256 ^ lengthBytes)
    (h : b ++ chunks.flatten = Bytes.bigEndian lengthBytes n ++ rest) :
    (between b).next limit chunks = .error .incomingTooLong := by
  have htake : ∀ part, (between (Bytes.bigEndian lengthBytes n ++ part)).take limit
      = .error .incomingTooLong := fun _ => (take_of_length hfits).trans (if_pos hn)
  induction chunks generalizing b with
  | nil =>
      rw [List.flatten_nil, List.append_nil] at h
      rw [h, next, htake]
  | cons chunk chunks ih =>
      rcases short_or_length h with hshort | ⟨part, rfl, -⟩
      · rw [next_incomplete hlimit (.length hshort)]
        rw [List.flatten_cons, ← List.append_assoc] at h
        exact ih h
      · rw [next, htake]

end Reader

/-! ## Every stream -/

/-- Every stream holds some frames and then either ends or has a fault. -/
theorem exists_holds (limit : Nat) (stream : Bytes) :
    ∃ frames fault, Holds limit stream frames fault := by
  by_cases hshort : stream.length < lengthBytes
  · exact ⟨[], _, .cut (.length hshort)⟩
  obtain ⟨n, rest, hfits, hstream⟩ := exists_length (Nat.not_lt.mp hshort)
  rw [hstream]
  rcases Nat.lt_or_ge limit n with hlong | hn
  · exact ⟨[], _, .tooLong hlong hfits⟩
  rcases Nat.lt_or_ge rest.length n with hcut | hwhole
  · exact ⟨[], _, .cut (.content hn hcut)⟩
  -- a whole frame stands in front, and the rest is shorter
  have hframe : (rest.take n).length = n := List.length_take_of_le hwhole
  have hsplit : Bytes.bigEndian lengthBytes n ++ rest = packed (rest.take n) ++ rest.drop n := by
    rw [packed, hframe, List.append_assoc, List.take_append_drop]
  have hless : (rest.drop n).length < stream.length := by
    rw [hstream, hsplit, List.length_append, length_packed, lengthBytes]
    omega
  obtain ⟨frames, fault, hrest⟩ := exists_holds limit (rest.drop n)
  have hle : (rest.take n).length ≤ limit := by omega
  rw [hsplit]
  exact ⟨_, fault, .frame hle hrest⟩
termination_by stream.length
decreasing_by exact hless

/-- No stream has room for more frames than it has lengths. -/
theorem Holds.length_le {stream : Bytes} {frames : List Bytes} {fault : Option FrameFault}
    (h : Holds limit stream frames fault) : frames.length ≤ stream.length := by
  induction h with
  | frame _ _ ih =>
      rw [List.length_cons, List.length_append, length_packed, lengthBytes]
      omega
  | tooLong => exact Nat.zero_le _
  | cut => exact Nat.zero_le _

end

end SocketStrategies.Framing
