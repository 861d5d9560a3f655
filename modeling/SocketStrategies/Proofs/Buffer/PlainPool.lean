import SocketStrategies.Buffer.Session

/-!
# Pools without memory

A plain pool is what users of a pool see, in the fewest words: how many buffers wait, and the
bytes of each buffer in use. It knows nothing of memory, of references or of the order in which
buffers wait. Handing out takes one off the count unless it is zero, dropping a pooled buffer adds
one while there is room, and nothing else moves the count.

Two facts about plain pools carry over to real ones: the count stays within its bound, and the
bytes under a name follow from the steps on that name alone.
-/

namespace SocketStrategies

namespace PlainPool

/-- A buffer in use: its bytes, and whether it is counted again when it is dropped. -/
structure Content where
  bytes : Bytes
  pooled : Bool

/-- How many buffers wait, and the buffers in use. -/
structure State where
  idle : Nat
  live : String → Option Content

/-- At first nothing waits and nothing is in use. -/
def State.new : State := ⟨0, fun _ => none⟩

/-- Puts something, or nothing, under a name. -/
def State.put (p : State) (id : String) (c : Option Content) : State :=
  { p with live := fun other => if other = id then c else p.live other }

/-- Changes the bytes under a name. -/
def State.edit (p : State) (id : String) (f : Bytes → Bytes) : State :=
  p.put id ((p.live id).map fun c => { c with bytes := f c.bytes })

/-- The bytes under a name. -/
def State.bytes? (p : State) (id : String) : Option Bytes := (p.live id).map (·.bytes)

/-- Drops what is under a name. A pooled buffer is counted while there is room for it,
any other is not. -/
def State.drop (max : Nat) (p : State) (id : String) : State :=
  match p.live id with
  | none => p
  | some c =>
      { p.put id none with idle := if c.pooled = true ∧ p.idle < max then p.idle + 1 else p.idle }

/-- Takes one step. -/
def step (max : Nat) (p : State) (id : String) : Workspace.Step → Workspace.Reply × State
  | .allocate _ =>
      (.roomy true, (State.drop max { p with idle := p.idle - 1 } id).put id (some ⟨[], true⟩))
  | .unpooled b => (.done, (p.drop max id).put id (some ⟨b, false⟩))
  | .write b => (.done, p.edit id (· ++ b))
  | .truncate n => (.done, p.edit id (·.take n))
  | .clear => (.done, p.edit id fun _ => [])
  | .drop => (.done, p.drop max id)
  | .freeze => (.frozen ((p.bytes? id).getD []), p.put id none)
  | .frame => (.frame ((p.bytes? id).getD []), p.drop max id)

/-- Does what is next. It does not matter who does it. -/
def act (max : Nat) (p : State) : Session.Action → Workspace.Reply × State
  | .join _ => (.done, p)
  | .work _ id s => step max p id s

/-- Does one thing after the other, with what each of them answers. -/
def run (max : Nat) (p : State) : List Session.Action → List Workspace.Reply × State
  | [] => ([], p)
  | a :: rest =>
      let (reply, p) := act max p a
      let (replies, p) := run max p rest
      (reply :: replies, p)

end PlainPool

/-! ## What a plain pool keeps -/

namespace PlainPool

variable {max : Nat} {p : State}

theorem idle_drop_le (h : p.idle ≤ max) (id : String) : (p.drop max id).idle ≤ max := by
  unfold State.drop
  split
  · exact h
  · dsimp only
    split
    · rename_i hroom
      exact hroom.2
    · exact h

theorem idle_act_le (h : p.idle ≤ max) (a : Session.Action) : (act max p a).2.idle ≤ max := by
  cases a with
  | join user => exact h
  | work user id s =>
      cases s with
      | allocate capacity =>
          have hless : p.idle - 1 ≤ max := by omega
          exact idle_drop_le (p := { p with idle := p.idle - 1 }) hless id
      | unpooled b => exact idle_drop_le h id
      | write b => exact h
      | truncate n => exact h
      | clear => exact h
      | drop => exact idle_drop_le h id
      | freeze => exact h
      | frame => exact idle_drop_le h id

/-- The count never goes beyond its bound. -/
theorem idle_run_le (h : p.idle ≤ max) (as : List Session.Action) :
    (run max p as).2.idle ≤ max := by
  induction as generalizing p with
  | nil => exact h
  | cons a as ih => exact ih (idle_act_le h a)

theorem live_put (p : State) (id : String) (c : Option Content) (other : String) :
    (p.put id c).live other = if other = id then c else p.live other := rfl

theorem live_drop (max : Nat) (p : State) (id other : String) :
    (p.drop max id).live other = if other = id then none else p.live other := by
  unfold State.drop
  split
  · rename_i hnone
    split
    · rename_i ho
      rw [ho, hnone]
    · rfl
  · exact live_put p id none other

theorem bytes?_put (p : State) (id : String) (c : Option Content) :
    (p.put id c).bytes? id = c.map (·.bytes) := by
  unfold State.bytes?
  rw [live_put, if_pos rfl]

theorem bytes?_drop (max : Nat) (p : State) (id : String) : (p.drop max id).bytes? id = none := by
  unfold State.bytes?
  rw [live_drop, if_pos rfl]
  rfl

theorem bytes?_edit (p : State) (id : String) (f : Bytes → Bytes) :
    (p.edit id f).bytes? id = (p.bytes? id).map f := by
  unfold State.edit
  rw [bytes?_put, Option.map_map]
  unfold State.bytes?
  rw [Option.map_map]
  rfl

/-- A step on one buffer leaves every other alone. -/
theorem live_step_of_ne {id other : String} (h : other ≠ id) (s : Workspace.Step) :
    (step max p id s).2.live other = p.live other := by
  cases s with
  | allocate capacity =>
      unfold step
      rw [live_put, if_neg h, live_drop, if_neg h]
  | unpooled b =>
      unfold step
      rw [live_put, if_neg h, live_drop, if_neg h]
  | write b => exact if_neg h
  | truncate n => exact if_neg h
  | clear => exact if_neg h
  | drop => exact (live_drop max p id other).trans (if_neg h)
  | freeze => exact if_neg h
  | frame => exact (live_drop max p id other).trans (if_neg h)

end PlainPool

/-! ## The content of one buffer -/

/-- The bytes that a step leaves under its name, given the bytes before it. A buffer that is
handed out starts without bytes. -/
def Workspace.Step.leave : Workspace.Step → Option Bytes → Option Bytes
  | .allocate _, _ => some []
  | .unpooled b, _ => some b
  | .write b, c => c.map (· ++ b)
  | .truncate n, c => c.map (·.take n)
  | .clear, c => c.map fun _ => []
  | .drop, _ => none
  | .freeze, _ => none
  | .frame, _ => none

/-- The bytes that an action leaves under a name. Only steps on that name count. -/
def Session.Action.leave (id : String) : Session.Action → Option Bytes → Option Bytes
  | .join _, c => c
  | .work _ other s, c => if other = id then s.leave c else c

theorem Session.Action.leave_self (user : Nat) (id : String) (s : Workspace.Step)
    (c : Option Bytes) :
    Session.Action.leave id (.work user id s) c = s.leave c := if_pos rfl

theorem Session.Action.leave_of_ne {id other : String} (h : other ≠ id) (user : Nat)
    (s : Workspace.Step) (c : Option Bytes) :
    Session.Action.leave id (.work user other s) c = c := if_neg h

/-- The bytes under a name after a history, told from the steps on that name alone. -/
def Session.content (id : String) (history : List Session.Action) : Option Bytes :=
  history.foldl (fun c a => a.leave id c) none

namespace PlainPool

variable {max : Nat}

theorem bytes?_step (p : State) (id : String) (s : Workspace.Step) :
    (step max p id s).2.bytes? id = s.leave (p.bytes? id) := by
  cases s with
  | allocate capacity => exact bytes?_put _ id _
  | unpooled b => exact bytes?_put _ id _
  | write b => exact bytes?_edit p id (· ++ b)
  | truncate n => exact bytes?_edit p id (·.take n)
  | clear => exact bytes?_edit p id fun _ => []
  | drop => exact bytes?_drop max p id
  | freeze => exact bytes?_put p id none
  | frame => exact bytes?_drop max p id

theorem bytes?_act (p : State) (id : String) (a : Session.Action) :
    (act max p a).2.bytes? id = a.leave id (p.bytes? id) := by
  cases a with
  | join user => rfl
  | work user other s =>
      by_cases ho : other = id
      · rw [ho, Session.Action.leave_self]
        exact bytes?_step p id s
      · rw [Session.Action.leave_of_ne ho]
        exact congrArg (Option.map _) (live_step_of_ne (Ne.symm ho) s)

theorem bytes?_run (p : State) (id : String) (as : List Session.Action) :
    (run max p as).2.bytes? id = as.foldl (fun c a => a.leave id c) (p.bytes? id) := by
  induction as generalizing p with
  | nil => rfl
  | cons a as ih =>
      have hact : (act max p a).2.bytes? id = a.leave id (p.bytes? id) := bytes?_act p id a
      rw [List.foldl_cons, ← hact]
      exact ih (act max p a).2

end PlainPool

end SocketStrategies
