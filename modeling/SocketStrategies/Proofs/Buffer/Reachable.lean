import SocketStrategies.Proofs.Buffer.Pool

/-!
# Pools in use

A pool is *reachable* if it came about from a new one by handing out buffers and taking buffers
back, whatever was done with them in between. In a reachable pool no more buffers wait than the
bound allows, and whatever the users of a session do, the pool that they share is reachable.

Writing an encoder's output is one more such use. It leaves one buffer less if the output is
complete, since that buffer is frozen and gone, and after a failure it leaves as many as before,
or the one that was made for it.
-/

namespace SocketStrategies

namespace Factory

/-- The pools with a bound that come about by use. -/
inductive Reachable (max : Nat) : Factory → Prop where
  | new : Reachable max (.new (.pooled max))
  | allocate {f : Factory} (capacity : Nat) :
      Reachable max f → Reachable max (f.allocate capacity).2
  /-- Whatever buffer is given back, and whatever it holds. -/
  | release {f : Factory} (b : Buffer) : Reachable max f → Reachable max (f.release b)

variable {f : Factory} {max : Nat}

theorem Reachable.kind (h : f.Reachable max) : f.kind = .pooled max := by
  induction h with
  | new => rfl
  | allocate capacity _ ih => rw [kind_allocate, ih]
  | release b _ ih => rw [kind_release, ih]

/-- The bound holds in every pool that came about by use. -/
theorem Reachable.length_idle_le (h : f.Reachable max) : f.idle.length ≤ max := by
  induction h with
  | new => exact Nat.zero_le max
  | allocate capacity hf ih =>
      obtain ⟨-, -, hlen⟩ := allocate_pooled hf.kind capacity
      omega
  | release b hf ih =>
      rw [length_release hf.kind]
      split
      · omega
      · exact ih

/-! ## Writing into a buffer -/

/-- What a call that writes into a buffer leaves of a pool. A refusal comes before there is a
buffer, and any other failure comes after. -/
structure Leaves {ε α : Type} (max : Nat) (f : Factory) (refusal : ε → Prop)
    (call : Except ε α × Factory) : Prop where
  /-- After a success one buffer less waits, or still none. -/
  success : ∀ v, call.1 = .ok v → call.2.idle.length = f.idle.length - 1
  /-- A refusal changes nothing. -/
  refused : ∀ err, call.1 = .error err → refusal err → call.2 = f
  /-- After any other failure as many buffers wait as before, and one at least if there
  is room for one. -/
  failed : ∀ err, call.1 = .error err → ¬ refusal err →
    call.2.idle.length = Max.max f.idle.length (min 1 max)
  /-- Whatever waits is empty. -/
  empty : ∀ m ∈ call.2.idle, m.val.bytes = []
  reachable : call.2.Reachable max

theorem Leaves.map {ε α β : Type} {refusal : ε → Prop} {call : Except ε α × Factory}
    (h : Leaves max f refusal call) (g : α → β) : Leaves max f refusal (call.1.map g, call.2) := by
  obtain ⟨result, f'⟩ := call
  cases result with
  | error err =>
      refine ⟨?_, ?_, ?_, h.empty, h.reachable⟩
      · intro v hv
        cases hv
      · intro err' herr
        cases herr
        exact h.refused err rfl
      · intro err' herr
        cases herr
        exact h.failed err rfl
  | ok v =>
      refine ⟨fun _ _ => h.success v rfl, ?_, ?_, h.empty, h.reachable⟩
      · intro err herr
        cases herr
      · intro err herr
        cases herr

theorem Reachable.leaves_self {ε α : Type} (h : f.Reachable max) {refusal : ε → Prop} {err : ε}
    (herr : refusal err) : Leaves max f refusal ((.error err, f) : Except ε α × Factory) := by
  refine ⟨?_, fun _ _ _ => rfl, ?_, fun m _ => m.property, h⟩
  · intro v hv
    cases hv
  · intro err' herr' hn
    cases herr'
    exact absurd herr hn

/-- **Writing into a pool's buffer.** What is left follows from whether the output is complete. -/
theorem Reachable.leaves_emit {ε : Type} (h : f.Reachable max) (capacity : Nat) {o : Output ε}
    {refusal : ε → Prop} (ho : ∀ err, o.failure = some err → ¬ refusal err) :
    Leaves max f refusal (f.emit capacity o) := by
  obtain ⟨hpooled, -, hlen⟩ := allocate_pooled h.kind capacity
  have hle := h.length_idle_le
  have hf' : (f.allocate capacity).2.Reachable max := .allocate capacity h
  unfold emit
  cases hfail : o.failure with
  | none =>
      refine ⟨fun _ _ => hlen, ?_, ?_, fun m _ => m.property, hf'⟩
      · intro err herr
        cases herr
      · intro err herr
        cases herr
  | some e =>
      have hback := length_release hf'.kind ((f.allocate capacity).1.write o.bytes)
      have hpooled' : ((f.allocate capacity).1.write o.bytes).pooled = true := hpooled
      rw [hlen] at hback
      refine ⟨?_, ?_, ?_, fun m _ => m.property, .release _ hf'⟩
      · intro v hv
        cases hv
      · intro err herr hrefusal
        cases herr
        exact absurd hrefusal (ho e hfail)
      · intro err herr _
        dsimp only
        rw [hback]
        -- a buffer that was taken from the pool finds its place free
        split
        · omega
        · rename_i hfull
          have hroom := not_and.mp hfull hpooled'
          omega

theorem Reachable.leaves_emitFrozen {ε : Type} (h : f.Reachable max) (capacity : Nat)
    {o : Output ε} {refusal : ε → Prop} (ho : ∀ err, o.failure = some err → ¬ refusal err) :
    Leaves max f refusal (f.emitFrozen capacity o) := (h.leaves_emit capacity ho).map Buffer.freeze

end Factory

/-! ## The pools of sessions -/

namespace Workspace

variable {w : Workspace} {max : Nat}

theorem reachable_giveUp (h : w.factory.Reachable max) (id : String) :
    (w.giveUp id).factory.Reachable max := by
  unfold giveUp
  cases w.buffer? id with
  | none => exact h
  | some b => exact .release b h

theorem reachable_step (h : w.factory.Reachable max) (id : String) (s : Step) :
    (w.step id s).2.factory.Reachable max := by
  cases s with
  | allocate capacity =>
      exact reachable_giveUp (w := { w with factory := (w.factory.allocate capacity).2 })
        (.allocate capacity h) id
  | unpooled b => exact reachable_giveUp h id
  | write b => exact h
  | truncate n => exact h
  | clear => exact h
  | drop => exact reachable_giveUp h id
  | freeze => exact h
  | frame => exact reachable_giveUp h id

end Workspace

namespace Session

variable {s : Session} {max : Nat}

theorem Joined.reachable_act (h : Joined max s)
    (hf : ∀ user, (s.workspace user).factory.Reachable max) (a : Action) :
    ∀ user, ((s.act a).2.workspace user).factory.Reachable max := by
  intro other
  cases a with
  | join user =>
      have href : (s.act (.join user)).2.reference other = s.reference other :=
        ((h.act (.join user)).reference other).trans (h.reference other).symm
      have hsame : ((s.act (.join user)).2.workspace other).factory
          = (s.workspace other).factory := by
        unfold workspace
        rw [href]
        rfl
      rw [hsame]
      exact hf other
  | work user id step =>
      obtain ⟨-, hwork⟩ := h.workspace_work user id step
      rw [hwork other]
      exact Workspace.reachable_step (hf user) id step

/-- **A whole session.** The pool that its users share is reachable. -/
theorem reachable_after (max : Nat) (history : List Action) (user : Nat) :
    ((after max history).workspace user).factory.Reachable max := by
  have hrun : ∀ (as : List Action) {s : Session}, Joined max s →
      (∀ user, (s.workspace user).factory.Reachable max) →
      ∀ user, ((s.run as).2.workspace user).factory.Reachable max := by
    intro as
    induction as with
    | nil => exact fun _ hf => hf
    | cons a as ih => exact fun h hf => ih (h.act a) (h.reachable_act hf a)
  refine hrun history (joined_new max) ?_ user
  intro user
  have hnew : ((new (.pooled max)).workspace user).factory = .new (.pooled max) := by
    unfold workspace
    rw [(joined_new max).reference user]
    rfl
  rw [hnew]
  exact .new

end Session

end SocketStrategies
