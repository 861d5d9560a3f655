import SocketStrategies.Bytes

/-!
# Frames with a length in front

On a byte stream a frame is its length in three bytes, the most significant first, and then its
content. The stream arrives in chunks that may be cut anywhere, so a reader remembers what it
expects next and what it has not used yet.

A frame that is longer than the limit is refused as soon as its length is known. A stream that
ends with bytes left over ends inside a frame, which is a fault too; a frame of which only the
length has arrived leaves nothing over and just never comes. After a fault nothing more is read.
-/

namespace SocketStrategies

inductive FrameFault where
  | outgoingTooLong
  | incomingTooLong
  | unfinished
  deriving DecidableEq, Repr

namespace Framing

/-- The number of bytes that give a length. -/
def lengthBytes : Nat := 3

/-- Writes a frame that is not longer than the limit. -/
def write (limit : Nat) (frame : Bytes) : Except FrameFault Bytes :=
  if limit < frame.length then .error .outgoingTooLong
  else .ok (Bytes.bigEndian lengthBytes frame.length ++ frame)

/-- What is to be read next. -/
inductive Expecting where
  | length
  | content (length : Nat)
  deriving DecidableEq, Repr

/-- How far a stream has been read. -/
structure Reader where
  expecting : Expecting
  /-- The bytes that have arrived and are not used yet. -/
  left : Bytes
  deriving DecidableEq, Repr

namespace Reader

def start : Reader := ⟨.length, []⟩

def push (r : Reader) (chunk : Bytes) : Reader := { r with left := r.left ++ chunk }

/-- Reads the content of a frame if all of it has arrived. -/
def takeContent (n : Nat) (b : Bytes) : Option Bytes × Reader :=
  match Bytes.take? n b with
  | none => (none, ⟨.content n, b⟩)
  | some (frame, rest) => (some frame, ⟨.length, rest⟩)

/-- Reads a frame if all of it has arrived. -/
def take (limit : Nat) (r : Reader) : Except FrameFault (Option Bytes × Reader) :=
  match r.expecting with
  | .content n => .ok (takeContent n r.left)
  | .length =>
      match Bytes.take? lengthBytes r.left with
      | none => .ok (none, r)
      | some (header, rest) =>
          let n := Bytes.ofBigEndian header
          if limit < n then .error .incomingTooLong else .ok (takeContent n rest)

/-- Reads the next frame, taking chunks in as they are needed. There is no frame at the end of the
stream. The last part is the chunks that were not needed. -/
def next (limit : Nat) (r : Reader) :
    List Bytes → Except FrameFault (Option Bytes × Reader × List Bytes)
  | [] =>
      match r.take limit with
      | .error e => .error e
      | .ok (some frame, r) => .ok (some frame, r, [])
      -- a stream may end between two frames and nowhere else
      | .ok (none, r) => if r.left.isEmpty then .ok (none, r, []) else .error .unfinished
  | chunk :: chunks =>
      match r.take limit with
      | .error e => .error e
      | .ok (some frame, r) => .ok (some frame, r, chunk :: chunks)
      | .ok (none, r) => (r.push chunk).next limit chunks

end Reader

end Framing

end SocketStrategies
