import Mathlib.Algebra.Group.Nat.Defs
import SocketStrategies.Proofs.Transport.Framing
import SocketStrategies.Transport.Tcp

/-!
# A connection passes frames on as they are

What a connection yields is what the stream that arrives holds (`yields_of_holds`): its frames,
byte for byte whichever way they are decoded, and then the stream's fault if there is one. A
connection sends nothing but packed frames, so one that has the same limit gets them back in
order, however the stream is cut.
-/

namespace SocketStrategies

theorem FrameDecoding.bytes_decode (d : FrameDecoding) (b : Bytes) :
    (d.decode (Storage.empty.write b)).bytes = b := by
  cases d with
  | zeroCopy => rfl
  | copying => rfl

namespace Connector

/-- The limit fits into the length of a frame, whatever it was asked to be. -/
theorem limitInbound_lt (c : Connector) (size : Nat) :
    (c.limitInbound size).maxInboundPayloadSize < 256 ^ Framing.lengthBytes :=
  Nat.lt_of_le_of_lt (Nat.min_le_right size maxFrameLength) (by decide)

end Connector

namespace TcpConnection

open Framing (Holds Reader packed cutFault lengthBytes)

/-! ## Sending -/

theorem send_of_le {c : TcpConnection} {frame : Bytes} (h : frame.length ≤ c.limit) :
    c.send frame = (.ok (), { c with sent := c.sent ++ packed frame }) := by
  rw [send, Framing.write_of_le h]

theorem sendAll_of_le {c : TcpConnection} {frames : List Bytes}
    (h : ∀ f ∈ frames, f.length ≤ c.limit) :
    c.sendAll frames
      = (frames.map fun _ => .ok (), { c with sent := c.sent ++ frames.flatMap packed }) := by
  induction frames generalizing c with
  | nil => simp only [sendAll, List.map_nil, List.flatMap_nil, List.append_nil]
  | cons frame frames ih =>
      have hframe := send_of_le (h frame List.mem_cons_self)
      have hrest := ih (c := { c with sent := c.sent ++ packed frame }) fun f hf =>
        h f (.tail _ hf)
      simp only [sendAll, hframe, hrest, List.map_cons, List.flatMap_cons, List.append_assoc]

/-! ## Receiving -/

/-- The results that a connection yields one after the other before it yields nothing. -/
inductive Yields : TcpConnection → List (Except TcpError Bytes) → Prop where
  | done {c : TcpConnection} : c.receive.1 = none → Yields c []
  | more {c c' : TcpConnection} {r : Except TcpError Bytes}
      {results : List (Except TcpError Bytes)} :
      c.receive = (some r, c') → Yields c' results → Yields c (r :: results)

/-- Frames that arrive, and the fault after them if there is one. -/
def arrivals (frames : List Bytes) (fault : Option FrameFault) : List (Except TcpError Bytes) :=
  frames.map .ok ++ fault.toList.map fun f => .error (.readWrite (.frame f))

theorem Yields.receiveUpTo {c : TcpConnection} {results : List (Except TcpError Bytes)}
    (h : c.Yields results) (count : Nat) : (c.receiveUpTo count).1 = results.take count := by
  induction h generalizing count with
  | @done c hnone =>
      cases count with
      | zero => rfl
      | succ count =>
          obtain ⟨r, c', hr⟩ : ∃ r c', c.receive = (r, c') := ⟨_, _, rfl⟩
          rw [hr] at hnone
          subst hnone
          rw [TcpConnection.receiveUpTo, hr, List.take_nil]
  | more hr _ ih =>
      cases count with
      | zero => rfl
      | succ count => simp only [TcpConnection.receiveUpTo, hr, ih, List.take_succ_cons]

variable {c : TcpConnection} {reader : Reader} {incoming : List Bytes}

theorem receive_frame {frame : Bytes} (hc : c.failed = false)
    (h : c.reader.next c.limit c.incoming = .ok (some frame, reader, incoming)) :
    c.receive = (some (.ok frame), { c with reader := reader, incoming := incoming }) := by
  simp only [receive, hc, h, Bool.false_eq_true, if_false, Option.map_some,
    FrameDecoding.bytes_decode]

theorem receive_end (hc : c.failed = false)
    (h : c.reader.next c.limit c.incoming = .ok (none, reader, incoming)) :
    c.receive.1 = none := by
  simp only [receive, hc, h, Bool.false_eq_true, if_false, Option.map_none]

theorem receive_fault {fault : FrameFault} (hc : c.failed = false)
    (h : c.reader.next c.limit c.incoming = .error fault) :
    c.receive = (some (.error (.readWrite (.frame fault))), { c with failed := true }) := by
  simp only [receive, hc, h, Bool.false_eq_true, if_false]

/-- After a fault a connection yields nothing. -/
theorem yields_nil_of_failed (hc : c.failed = true) : c.Yields [] :=
  .done (by rw [receive, if_pos hc])

/-- A connection yields what the stream holds from where it is read next, however it is
cut into chunks. -/
theorem yields_of_holds {limit : Nat} (hlimit : limit < 256 ^ lengthBytes) {stream : Bytes}
    {frames : List Bytes} {fault : Option FrameFault} (h : Holds limit stream frames fault)
    {b : Bytes} (hl : c.limit = limit) (hr : c.reader = .between b) (hc : c.failed = false)
    (hstream : b ++ c.incoming.flatten = stream) : c.Yields (arrivals frames fault) := by
  induction h generalizing c b with
  | frame hframe _ ih =>
      obtain ⟨b', incoming, hnext, hrest⟩ := Reader.next_frame hlimit hframe hstream
      rw [← hr, ← hl] at hnext
      exact .more (receive_frame hc hnext)
        (ih (c := { c with reader := .between b', incoming := incoming })
        hl rfl hc hrest)
  | tooLong hn hfits =>
      have hnext := Reader.next_tooLong hlimit hn hfits hstream
      rw [← hr, ← hl] at hnext
      exact .more (receive_fault hc hnext) (yields_nil_of_failed rfl)
  | cut hcut =>
      subst hstream
      cases hfault : cutFault (b ++ c.incoming.flatten) with
      | none =>
          obtain ⟨reader, hnext⟩ := Reader.next_cut hlimit hcut hfault
          rw [← hr, ← hl] at hnext
          exact .done (receive_end hc hnext)
      | some fault =>
          have hnext := Reader.next_cut_fault hlimit hcut hfault
          rw [← hr, ← hl] at hnext
          exact .more (receive_fault hc hnext) (yields_nil_of_failed rfl)

/-! ## Receiving everything -/

theorem pending_between {b : Bytes} (hr : c.reader = .between b) :
    c.pending = (b ++ c.incoming.flatten).length := by
  have hsum : ∀ chunks : List Bytes, (chunks.map List.length).foldr (· + ·) 0
      = chunks.flatten.length := by
    intro chunks
    induction chunks with
    | nil => rfl
    | cons chunk chunks ih =>
        rw [List.map_cons, List.foldr_cons, ih, List.flatten_cons, List.length_append]
  rw [pending, hr, hsum, List.length_append]
  rfl

/-- The bytes that have not been used yet are enough to bound how many results there are. -/
theorem receiveAll_of_holds (hlimit : c.limit < 256 ^ lengthBytes) {frames : List Bytes}
    {fault : Option FrameFault} {b : Bytes} (hr : c.reader = .between b) (hc : c.failed = false)
    (h : Holds c.limit (b ++ c.incoming.flatten) frames fault) :
    c.receiveAll.1 = arrivals frames fault := by
  have hyields := yields_of_holds hlimit h rfl hr hc rfl
  have hlen := h.length_le
  have hcount : (arrivals frames fault).length ≤ c.pending + 2 := by
    have hfault : fault.toList.length ≤ 1 := by cases fault <;> simp
    rw [arrivals, List.length_append, List.length_map, List.length_map, pending_between hr]
    omega
  rw [receiveAll, hyields.receiveUpTo, List.take_of_length_le hcount]

/-- Nothing that is received depends on how the stream is cut, whether it is well-formed or not. -/
theorem receiveAll_eq_of_flatten {setup : ConnectionSetup} {chunks chunks' : List Bytes}
    (hlimit : setup.connector.maxInboundPayloadSize < 256 ^ lengthBytes)
    (h : chunks.flatten = chunks'.flatten) (peer : SocketAddress) :
    (start setup peer chunks).receiveAll.1 = (start setup peer chunks').receiveAll.1 := by
  obtain ⟨frames, fault, hholds⟩ :=
    Framing.exists_holds setup.connector.maxInboundPayloadSize chunks.flatten
  have hall : ∀ cs : List Bytes, cs.flatten = chunks.flatten →
      (start setup peer cs).receiveAll.1 = arrivals frames fault :=
    fun cs hcs => receiveAll_of_holds (c := start setup peer cs) (b := []) hlimit rfl rfl
      (hcs ▸ hholds)
  rw [hall chunks rfl, hall chunks' h.symm]

/-! ## From one connection to another -/

/--
**Frames arrive as they were sent.** Two connections have the same limit, whichever was asked
for, and each its own way of decoding. Of frames that are not longer than the limit, and of
chunks cut anywhere:

* every frame is sent, as three bytes that say its length and then its content;
* when the stream ends after the last of them, the other connection yields these frames
  and then nothing;
* when a longer frame follows, it yields the frames and then a fault;
* when the stream ends inside a further frame, it yields the frames and no part of that one.
-/
theorem frames_arrive (own other : Connector) (size : Nat) (sending receiving : ConnectionSetup)
    (hs : sending.connector = own.limitInbound size)
    (hr : receiving.connector = other.limitInbound size)
    (peer peer' : SocketAddress) (incoming : List Bytes) {frames : List Bytes}
    (hframes : ∀ f ∈ frames, f.length ≤ min size 0xFFFFFF) :
    (start sending peer incoming).sendAll frames
        = (frames.map fun _ => .ok (),
            { start sending peer incoming with sent := frames.flatMap packed })
      ∧ (∀ f ∈ frames, packed f = Bytes.bigEndian 3 f.length ++ f
          ∧ Bytes.ofBigEndian (Bytes.bigEndian 3 f.length) = f.length)
      ∧ ∀ chunks : List Bytes,
        (chunks.flatten = frames.flatMap packed →
          (start receiving peer' chunks).Yields (frames.map .ok))
        ∧ (∀ (n : Nat) (rest : Bytes), min size 0xFFFFFF < n → n ≤ 0xFFFFFF →
            chunks.flatten = frames.flatMap packed ++ (Bytes.bigEndian 3 n ++ rest) →
            (start receiving peer' chunks).Yields
              (frames.map .ok ++ [.error (.readWrite (.frame .incomingTooLong))]))
        ∧ ∀ frame part missing : Bytes, frame.length ≤ 0xFFFFFF → missing ≠ [] →
            part ++ missing = packed frame → chunks.flatten = frames.flatMap packed ++ part →
            (start receiving peer' chunks).Yields
              (arrivals frames (Framing.partFault (min size 0xFFFFFF) frame part)) := by
  have hown : (start sending peer incoming).limit = min size 0xFFFFFF := by
    rw [start, hs]
    rfl
  have hother : ∀ chunks, (start receiving peer' chunks).limit = min size 0xFFFFFF := by
    intro chunks
    rw [start, hr]
    rfl
  have hmax : 0xFFFFFF < 256 ^ lengthBytes := by decide
  have hlimit : min size 0xFFFFFF < 256 ^ lengthBytes := own.limitInbound_lt size
  -- what the stream holds is what the other connection yields
  have hyields : ∀ (chunks : List Bytes) (rest : Bytes) (fault : Option FrameFault),
      Holds (min size 0xFFFFFF) rest [] fault →
      chunks.flatten = frames.flatMap packed ++ rest →
      (start receiving peer' chunks).Yields (arrivals frames fault) := by
    intro chunks rest fault hrest hchunks
    have hholds := Framing.holds_append hframes hrest
    rw [List.append_nil] at hholds
    exact yields_of_holds hlimit hholds (hother chunks) rfl rfl hchunks
  refine ⟨?_, ?_, fun chunks => ⟨?_, ?_, ?_⟩⟩
  · exact sendAll_of_le (by rwa [hown])
  · intro f hf
    have hfits := Nat.lt_of_le_of_lt (hframes f hf) hlimit
    exact ⟨rfl, Bytes.ofBigEndian_bigEndian hfits⟩
  · intro hchunks
    have h := hyields chunks [] none (.cut .nil) (by rw [hchunks, List.append_nil])
    simpa [arrivals] using h
  · intro n rest hn hmaxn hchunks
    exact hyields chunks _ _ (.tooLong hn (Nat.lt_of_le_of_lt hmaxn hmax)) hchunks
  · intro frame part missing hframe hmissing hpart hchunks
    exact hyields chunks part _
      (Framing.holds_part (Nat.lt_of_le_of_lt hframe hmax) hmissing hpart) hchunks

/-- A setup with a limit of two bytes. -/
def shortSetup (decoding : FrameDecoding) : ConnectionSetup :=
  (Connector.default.limitInbound 2).finish .json .json decoding ⟨none, none⟩

/-- A connection with this limit to which chunks come. -/
def shortConnection (chunks : List Bytes) : TcpConnection :=
  start (shortSetup .copying) ⟨.v4 ⟨127, 0, 0, 1⟩, 7878⟩ chunks

/-- Two frames, the first of them empty, and three streams that begin with them. -/
theorem frames_arrive_short :
    (∀ f ∈ ([[], [1, 2]] : List Bytes), f.length ≤ min 2 0xFFFFFF)
      ∧ ((start (shortSetup .zeroCopy) ⟨.v4 ⟨127, 0, 0, 1⟩, 7878⟩ []).sendAll [[], [1, 2]]).2.sent
          = [0, 0, 0, 0, 0, 2, 1, 2]
      ∧ (shortConnection [[0], [0, 0, 0, 0], [2, 1], [2]]).Yields [.ok [], .ok [1, 2]]
      ∧ (shortConnection [[0, 0, 0, 0, 0, 2, 1, 2, 0], [0, 3, 9]]).Yields
          [.ok [], .ok [1, 2], .error (.readWrite (.frame .incomingTooLong))]
      ∧ (shortConnection [[0, 0, 0, 0, 0, 2, 1, 2, 0, 0], [2, 7]]).Yields
          [.ok [], .ok [1, 2], .error (.readWrite (.frame .unfinished))] := by
  have hframes : ∀ f ∈ ([[], [1, 2]] : List Bytes), f.length ≤ min 2 0xFFFFFF := by decide
  obtain ⟨hsend, -, hreceive⟩ :=
    frames_arrive .default .default 2 (shortSetup .zeroCopy) (shortSetup .copying)
    rfl rfl ⟨.v4 ⟨127, 0, 0, 1⟩, 7878⟩ ⟨.v4 ⟨127, 0, 0, 1⟩, 7878⟩ [] hframes
  refine ⟨hframes, by rw [hsend]; rfl, ?_, ?_, ?_⟩
  · exact (hreceive _).1 rfl
  · exact (hreceive _).2.1 3 [9] (by decide) (by decide) rfl
  · exact (hreceive _).2.2 [7, 8] [0, 0, 2, 7] [8] (by decide) (by decide) rfl rfl

end TcpConnection

end SocketStrategies
