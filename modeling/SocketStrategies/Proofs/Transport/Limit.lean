import Mathlib.Algebra.Group.Nat.Defs
import SocketStrategies.Proofs.Transport.Tcp

/-!
# One limit for both directions

A connection knows one limit, the one that its setup gives for received frames, and goes by it
whichever way a frame goes. Sending and receiving leave the limit alone (`limit_of_reached`), so
what is refused later on is what would be refused at once: a frame that is longer, and nothing
else. For frames that arrive this is what the setting says. For frames that are sent it is a limit
that nobody has asked for.
-/

namespace SocketStrategies

namespace Framing

/-- What is wrong with whole frames, of which one may be too long. -/
def longFault (limit : Nat) (frames : List Bytes) : Option FrameFault :=
  if ∀ f ∈ frames, f.length ≤ limit then none else some .incomingTooLong

theorem write_of_lt {limit : Nat} {frame : Bytes} (h : limit < frame.length) :
    write limit frame = .error .outgoingTooLong := if_pos h

/-- Of whole frames a stream holds those in front of the first that is too long. -/
theorem holds_packed {limit : Nat} {frames : List Bytes}
    (hfits : ∀ f ∈ frames, f.length < 256 ^ lengthBytes) :
    Holds limit (frames.flatMap packed) (frames.takeWhile fun f => f.length ≤ limit)
      (longFault limit frames) := by
  induction frames with
  | nil => exact .cut .nil
  | cons frame frames ih =>
      have hrest := ih fun f hf => hfits f (.tail _ hf)
      rw [List.flatMap_cons, List.takeWhile_cons]
      by_cases hframe : frame.length ≤ limit
      · have hfault : longFault limit (frame :: frames) = longFault limit frames := by
          simp only [longFault, List.forall_mem_cons, hframe, true_and]
        rw [if_pos (decide_eq_true hframe), hfault]
        exact .frame hframe hrest
      · -- nothing behind a frame that is too long is looked at
        have hfault : longFault limit (frame :: frames) = some .incomingTooLong := by
          simp only [longFault, List.forall_mem_cons, hframe, false_and, if_false]
        rw [if_neg (by simpa using hframe), hfault, packed, List.append_assoc]
        exact .tooLong (Nat.lt_of_not_le hframe) (hfits frame List.mem_cons_self)

end Framing

namespace TcpTransport

theorem connect_eq_ok_iff {t : TcpTransport}
    {network : SocketAddress → Except NetworkFault (List Bytes)} {setup : ConnectionSetup}
    {c : TcpConnection} :
    t.connect network setup = .ok c ↔
      ∃ peer incoming, t.resolve t.address.hostPort = .ok peer ∧ network peer = .ok incoming
        ∧ c = .start setup peer incoming := by
  rw [connect]
  constructor
  · intro h
    split at h
    · cases h
    · rename_i peer hpeer
      split at h
      · cases h
      · rename_i incoming hincoming
        exact ⟨peer, incoming, hpeer, hincoming, (Except.ok.inj h).symm⟩
  · rintro ⟨peer, incoming, hpeer, hincoming, rfl⟩
    rw [hpeer]
    dsimp only
    rw [hincoming]

end TcpTransport

namespace TcpConnection

open Framing (packed longFault lengthBytes)

/-- A frame that is too long leaves everything as it was. -/
theorem send_of_lt {c : TcpConnection} {frame : Bytes} (h : c.limit < frame.length) :
    c.send frame = (.error (.readWrite (.frame .outgoingTooLong)), c) := by
  rw [send, Framing.write_of_lt h]

/-! ## Use of a connection -/

/-- What becomes of a connection that sends and receives in any order. -/
inductive Reached (first : TcpConnection) : TcpConnection → Prop where
  | start : Reached first first
  | send {c : TcpConnection} : Reached first c → ∀ frame, Reached first (c.send frame).2
  | receive {c : TcpConnection} : Reached first c → Reached first c.receive.2

theorem limit_send (c : TcpConnection) (frame : Bytes) : (c.send frame).2.limit = c.limit := by
  rcases Nat.lt_or_ge c.limit frame.length with h | h
  · rw [send_of_lt h]
  · rw [send_of_le h]

theorem limit_receive (c : TcpConnection) : c.receive.2.limit = c.limit := by
  rw [receive]
  split
  · rfl
  · split
    · rfl
    · rfl

/-- **No use of a connection changes its limit.** -/
theorem limit_of_reached {first c : TcpConnection} (h : Reached first c) :
    c.limit = first.limit := by
  induction h with
  | start => rfl
  | send _ frame ih => rw [limit_send, ih]
  | receive _ ih => rw [limit_receive, ih]

theorem limit_start (setup : ConnectionSetup) (peer : SocketAddress) (incoming : List Bytes) :
    (start setup peer incoming).limit = setup.connector.maxInboundPayloadSize := rfl

/-! ## Both directions -/

/--
**The limit on received frames is a limit on sent frames too.** Of two connections one has a limit
and the other one the default, and both have sent and received since they were made. Of any frame:

* with the default limit it is sent if three bytes can say its length: the length goes out,
  and then the frame;
* with the limit it is sent like that if it is no longer than the limit;
* with the limit it is refused if it is longer, and nothing is written or changed.

Of whole frames that arrive, in any chunks, the connection with the limit yields those in front of
the first that is longer than the limit, and for that one a fault.
-/
theorem limit_holds_both_ways {t t' : TcpTransport}
    {network network' : SocketAddress → Except NetworkFault (List Bytes)}
    {own : Connector} {size : Nat} {setup setup' : ConnectionSetup}
    {first first' c c' : TcpConnection} (hs : setup.connector = own.limitInbound size)
    (hs' : setup'.connector.maxInboundPayloadSize = Connector.default.maxInboundPayloadSize)
    (hfirst : t.connect network setup = .ok first)
    (hfirst' : t'.connect network' setup' = .ok first')
    (hc : Reached first c) (hc' : Reached first' c') (frame : Bytes) :
    (frame.length ≤ 0xFFFFFF →
        c'.send frame
          = (.ok (), { c' with sent := c'.sent ++ (Bytes.bigEndian 3 frame.length ++ frame) }))
      ∧ (frame.length ≤ min size 0xFFFFFF →
        c.send frame = (.ok (),
          { c with sent := c.sent ++ (Bytes.bigEndian 3 frame.length ++ frame) }))
      ∧ (min size 0xFFFFFF < frame.length →
        c.send frame = (.error (.readWrite (.frame .outgoingTooLong)), c))
      ∧ ∀ frames : List Bytes, (∀ f ∈ frames, f.length ≤ 0xFFFFFF) →
        first.incoming.flatten = frames.flatMap packed →
        first.Yields (arrivals (frames.takeWhile fun f => f.length ≤ min size 0xFFFFFF)
          (longFault (min size 0xFFFFFF) frames)) := by
  obtain ⟨peer, incoming, -, -, rfl⟩ := TcpTransport.connect_eq_ok_iff.mp hfirst
  obtain ⟨peer', incoming', -, -, rfl⟩ := TcpTransport.connect_eq_ok_iff.mp hfirst'
  have hlimit : setup.connector.maxInboundPayloadSize = min size 0xFFFFFF := by
    rw [hs]
    rfl
  have hlimit' : setup'.connector.maxInboundPayloadSize = 0xFFFFFF := hs'
  have hown : c.limit = min size 0xFFFFFF := by rw [limit_of_reached hc, limit_start, hlimit]
  have hdefault : c'.limit = 0xFFFFFF := by rw [limit_of_reached hc', limit_start, hlimit']
  refine ⟨fun h => ?_, fun h => ?_, fun h => ?_, fun frames hframes hincoming => ?_⟩
  · exact send_of_le (by rwa [hdefault])
  · exact send_of_le (by rwa [hown])
  · exact send_of_lt (by rwa [hown])
  · have hmax : 0xFFFFFF < 256 ^ lengthBytes := by decide
    have hfits : ∀ f ∈ frames, f.length < 256 ^ lengthBytes :=
      fun f hf => Nat.lt_of_le_of_lt (hframes f hf) hmax
    exact yields_of_holds (own.limitInbound_lt size) (Framing.holds_packed hfits) hlimit rfl rfl
      hincoming

-- A limit of two bytes on what is received: a frame of three bytes is not sent.
example : ((start ((Connector.default.limitInbound 2).finish .json .json .copying ⟨none, none⟩)
    ⟨.v4 ⟨127, 0, 0, 1⟩, 7878⟩ []).send [1, 2, 3]).1
      = .error (.readWrite (.frame .outgoingTooLong)) := rfl

end TcpConnection

end SocketStrategies
