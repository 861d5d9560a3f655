import SocketStrategies.Proofs.Buffer.Emission
import SocketStrategies.Proofs.Buffer.PlainPool

/-!
# A pool is a count

The memory that waits in a pool cannot be told from new memory, so a pool comes down to the number
of buffers that wait. `Workspace.view` forgets the memory and leaves a plain pool. Every step
commutes with it, whichever of the users takes the step, since all references lead to the same
waiting buffers.

What holds of plain pools is then a fact about sessions: the count stays within its bound, buffers
do not touch each other, and a buffer holds what was written to it since it was handed out,
whoever had its memory before.
-/

namespace SocketStrategies

/-! ## What is to be seen of a workspace -/

namespace Factory

variable {f : Factory} {max : Nat}

/-- What a pooled factory hands out is empty, pooled and has room, and one buffer less waits. -/
theorem allocate_pooled (hk : f.kind = .pooled max) (capacity : Nat) :
    (f.allocate capacity).1.pooled = true ∧ capacity ≤ (f.allocate capacity).1.storage.capacity
      ∧ (f.allocate capacity).2.idle.length = f.idle.length - 1 := by
  have hroom : ∀ s : Storage, capacity ≤ (s.reserve capacity).capacity := by
    intro s
    have h : (s.reserve capacity).capacity = Max.max s.capacity (s.bytes.length + capacity) := rfl
    omega
  unfold allocate
  split
  · rename_i hheap
    rw [hk] at hheap
    cases hheap
  · rename_i hnil
    exact ⟨rfl, hroom _, by rw [hnil]; rfl⟩
  · rename_i s waiting _ hcons
    exact ⟨rfl, hroom _, by rw [hcons]; rfl⟩

theorem kind_allocate (f : Factory) (capacity : Nat) : (f.allocate capacity).2.kind = f.kind := by
  unfold allocate
  split <;> rfl

theorem length_release (hk : f.kind = .pooled max) (b : Buffer) :
    (f.release b).idle.length
      = if b.pooled = true ∧ f.idle.length < max then f.idle.length + 1 else f.idle.length := by
  unfold release
  rw [hk]
  simp only [Bool.and_eq_true, decide_eq_true_eq]
  split
  · rw [List.length_append, List.length_singleton]
  · rfl

theorem kind_release (f : Factory) (b : Buffer) : (f.release b).kind = f.kind := by
  unfold release
  split
  · rfl
  · split <;> rfl

end Factory

namespace Workspace

/-- How many buffers wait, and the bytes of the buffers in use. -/
def view (w : Workspace) : PlainPool.State :=
  ⟨w.factory.idle.length, fun id => (w.buffer? id).map fun b => ⟨b.bytes, b.pooled⟩⟩

theorem lookup_filter_ne {α : Type} (l : List (String × α)) (id other : String) :
    (l.filter (·.1 != id)).lookup other = if other = id then none else l.lookup other := by
  induction l with
  | nil => simp
  | cons e l ih =>
      by_cases he : e.1 = id
      · rw [List.filter_cons_of_neg (by simp [he]), ih, List.lookup_cons]
        by_cases ho : other = id
        · rw [if_pos ho, if_pos ho]
        · rw [if_neg ho, if_neg ho, he, beq_eq_false_iff_ne.mpr ho]
      · rw [List.filter_cons_of_pos (by simp [he]), List.lookup_cons, List.lookup_cons, ih]
        by_cases ho : other = id
        · rw [if_pos ho, if_pos ho, ho, beq_eq_false_iff_ne.mpr (Ne.symm he)]
        · rw [if_neg ho, if_neg ho]

theorem lookup_map_at {α : Type} (l : List (String × α)) (f : α → α) (id other : String) :
    (l.map fun e => if e.1 == id then (e.1, f e.2) else e).lookup other
      = if other = id then (l.lookup other).map f else l.lookup other := by
  induction l with
  | nil => simp
  | cons e l ih =>
      have hkey : (if e.1 == id then (e.1, f e.2) else e).1 = e.1 := by split <;> rfl
      rw [List.map_cons, List.lookup_cons, List.lookup_cons, hkey, ih]
      by_cases ho : other = e.1
      · subst ho
        by_cases he : e.1 = id <;> simp [he]
      · rw [beq_eq_false_iff_ne.mpr ho]

theorem view_forget (w : Workspace) (id : String) : (w.forget id).view = w.view.put id none := by
  unfold view PlainPool.State.put forget buffer?
  simp only [lookup_filter_ne, PlainPool.State.mk.injEq, true_and]
  funext other
  split <;> rfl

theorem view_change {w : Workspace} {f : Buffer → Buffer} {g : Bytes → Bytes} (id : String)
    (hf : ∀ b, (f b).bytes = g b.bytes ∧ (f b).pooled = b.pooled) :
    (w.change id f).view = w.view.edit id g := by
  unfold view PlainPool.State.edit PlainPool.State.put change buffer?
  simp only [lookup_map_at, PlainPool.State.mk.injEq, true_and]
  funext other
  by_cases ho : other = id
  · subst ho
    rw [if_pos rfl, if_pos rfl]
    cases w.live.lookup other with
    | none => rfl
    | some b => simp [hf b]
  · rw [if_neg ho, if_neg ho]

theorem live_view (w : Workspace) (id : String) :
    w.view.live id = (w.buffer? id).map fun b => ⟨b.bytes, b.pooled⟩ := rfl

theorem bytes?_view (w : Workspace) (id : String) :
    w.view.bytes? id = (w.buffer? id).map Buffer.bytes := by
  unfold view PlainPool.State.bytes?
  rw [Option.map_map]
  rfl

section Pooled

variable {w : Workspace} {max : Nat}

theorem view_giveUp (hk : w.factory.kind = .pooled max) (id : String) :
    (w.giveUp id).view = w.view.drop max id := by
  have hforget := view_forget w id
  have hlive := live_view w id
  unfold giveUp PlainPool.State.drop
  cases hb : w.buffer? id with
  | none =>
      rw [hb] at hlive
      rw [hlive]
      rfl
  | some b =>
      rw [hb] at hlive
      rw [hlive]
      dsimp only [Option.map_some]
      rw [← hforget]
      unfold view
      simp only [PlainPool.State.mk.injEq]
      exact ⟨Factory.length_release hk b, rfl⟩

theorem kind_giveUp (w : Workspace) (id : String) :
    (w.giveUp id).factory.kind = w.factory.kind := by
  unfold giveUp
  cases w.buffer? id with
  | none => rfl
  | some b => exact Factory.kind_release w.factory b

theorem view_place (hk : w.factory.kind = .pooled max) (id : String) (b : Buffer) :
    (w.place id b).view = (w.view.drop max id).put id (some ⟨b.bytes, b.pooled⟩) := by
  rw [← view_giveUp hk]
  unfold place view PlainPool.State.put buffer?
  simp only [PlainPool.State.mk.injEq, true_and]
  funext other
  rw [List.lookup_cons]
  by_cases ho : other = id
  · rw [if_pos ho, beq_iff_eq.mpr ho]
    rfl
  · rw [if_neg ho, beq_eq_false_iff_ne.mpr ho]

/-- The factory remains what it is. -/
theorem kind_step (w : Workspace) (id : String) (s : Step) :
    (w.step id s).2.factory.kind = w.factory.kind := by
  cases s with
  | allocate capacity => exact (kind_giveUp _ id).trans (Factory.kind_allocate w.factory capacity)
  | unpooled b => exact kind_giveUp w id
  | write b => rfl
  | truncate n => rfl
  | clear => rfl
  | drop => exact kind_giveUp w id
  | freeze => rfl
  | frame => exact kind_giveUp w id

/-- **One step.** What a step answers, and what is to be seen afterwards, a plain pool tells
too. -/
theorem view_step (hk : w.factory.kind = .pooled max) (id : String) (s : Step) :
    ((w.step id s).1, (w.step id s).2.view) = PlainPool.step max w.view id s := by
  cases s with
  | allocate capacity =>
      obtain ⟨hpooled, hroom, hlen⟩ := Factory.allocate_pooled hk capacity
      have hempty := Factory.bytes_allocate w.factory capacity
      have hk' := (Factory.kind_allocate w.factory capacity).trans hk
      have hview : ({ w with factory := (w.factory.allocate capacity).2 } : Workspace).view
          = { w.view with idle := w.view.idle - 1 } := by
        unfold view
        simp only [hlen]
        rfl
      have hplace := view_place (w := { w with factory := (w.factory.allocate capacity).2 }) hk' id
        (w.factory.allocate capacity).1
      rw [hview, hempty, hpooled] at hplace
      unfold step PlainPool.step
      simp only [hplace, hroom, decide_true]
  | unpooled b =>
      have hplace := view_place hk id (.unpooled b)
      unfold step PlainPool.step
      simp only [hplace]
      rfl
  | write b => exact congrArg (Prod.mk _) (view_change id fun _ => ⟨rfl, rfl⟩)
  | truncate n => exact congrArg (Prod.mk _) (view_change id fun _ => ⟨rfl, rfl⟩)
  | clear => exact congrArg (Prod.mk _) (view_change id fun _ => ⟨rfl, rfl⟩)
  | drop => exact congrArg (Prod.mk _) (view_giveUp hk id)
  | freeze =>
      unfold step PlainPool.step
      rw [view_forget, bytes?_view]
      rfl
  | frame =>
      -- a frame shows the bytes that arrived, whether they are shared or copied
      have hdecode : ∀ (d : FrameDecoding) (b : Bytes), (d.decode (Storage.empty.write b)).bytes
          = b := by
        intro d b
        cases d <;> rfl
      unfold step PlainPool.step
      simp only [hdecode, view_giveUp hk, bytes?_view]

end Pooled

end Workspace

/-! ## All users see the same -/

/-- Who works with a factory finds it later as he left it. -/
theorem Arena.factory_withFactory {β : Type} (a : Arena) (r : Shared FactoryKind)
    (op : Factory → β × Factory) (hkind : (op (a.factory r)).2.kind = r.value) :
    (a.withFactory r op).2.factory r = (op (a.factory r)).2 := by
  have hidle : (a.withFactory r op).2.factory r = ⟨r.value, (op (a.factory r)).2.idle⟩ := by
    unfold withFactory
    rw [factory, Dict.get?_insert, if_pos rfl, Option.getD_some]
  rw [hidle]
  exact congrArg (Factory.mk · _) hkind.symm

namespace Session

/-- All users refer to the one pooled factory. -/
structure Joined (max : Nat) (s : Session) : Prop where
  kind : s.original.value = .pooled max
  copies : ∀ r ∈ s.copies, r = s.original

variable {s : Session} {max : Nat}

theorem joined_new (max : Nat) : Joined max (new (.pooled max)) :=
  ⟨rfl, fun _ h => absurd h List.not_mem_nil⟩

theorem Joined.reference (h : Joined max s) (user : Nat) : s.reference user = s.original := by
  unfold Session.reference
  rw [List.getD_eq_getElem?_getD]
  cases hr : (s.original :: s.copies)[user]? with
  | none => rfl
  | some r =>
      rcases List.mem_cons.mp (List.mem_of_getElem? hr) with hr | hr
      · exact hr
      · exact h.copies r hr

/-- What is to be seen of a session. -/
def view (s : Session) : PlainPool.State := (s.workspace 0).view

theorem Joined.view_workspace (h : Joined max s) (user : Nat) :
    (s.workspace user).view = s.view := by
  unfold view workspace
  rw [h.reference user, h.reference 0]

theorem Joined.act (h : Joined max s) (a : Action) : Joined max (s.act a).2 := by
  cases a with
  | join user =>
      refine ⟨h.kind, ?_⟩
      intro r hr
      rcases List.mem_append.mp hr with hr | hr
      · exact h.copies r hr
      · rw [List.mem_singleton.mp hr, h.reference user]
        rfl
  | work user id step => exact ⟨h.kind, h.copies⟩

/-- A user's step changes the factory and the buffers as it does in his workspace. -/
theorem Joined.workspace_work (h : Joined max s) (user : Nat) (id : String)
    (step : Workspace.Step) :
    (s.act (.work user id step)).1 = ((s.workspace user).step id step).1
      ∧ ∀ other, (s.act (.work user id step)).2.workspace other
          = ((s.workspace user).step id step).2 := by
  refine ⟨rfl, ?_⟩
  intro other
  have hkind := Workspace.kind_step (s.workspace user) id step
  have hfactory := s.arena.factory_withFactory (s.reference user) (fun f =>
    ((Workspace.step ⟨f, s.live⟩ id step).1, (Workspace.step ⟨f, s.live⟩ id step).2.factory)) hkind
  have href : (s.act (.work user id step)).2.reference other = s.reference user :=
    ((h.act (.work user id step)).reference other).trans (h.reference user).symm
  unfold workspace
  rw [href]
  exact congrArg (Workspace.mk · _) hfactory

/-- **One action.** A plain pool answers the same, and the same is to be seen afterwards. -/
theorem Joined.view_act (h : Joined max s) (a : Action) :
    ((s.act a).1, (s.act a).2.view) = PlainPool.act max s.view a := by
  cases a with
  | join user =>
      refine congrArg (Prod.mk _) ?_
      unfold view workspace
      rw [(h.act (.join user)).reference 0, h.reference 0]
      rfl
  | work user id step =>
      obtain ⟨hreply, hwork⟩ := h.workspace_work user id step
      have hk : (s.workspace user).factory.kind = .pooled max := by
        rw [← h.kind, ← h.reference user]
        rfl
      have hstep := Workspace.view_step hk id step
      rw [h.view_workspace user] at hstep
      unfold view
      rw [hreply, hwork 0]
      exact hstep

/-- **A whole run.** A plain pool that starts with what is to be seen ends with what is to be
seen. -/
theorem Joined.view_run (h : Joined max s) (as : List Action) :
    Joined max (s.run as).2 ∧ ((s.run as).1, (s.run as).2.view) = PlainPool.run max s.view as := by
  induction as generalizing s with
  | nil => exact ⟨h, rfl⟩
  | cons a as ih =>
      obtain ⟨hjoined, hrun⟩ := ih (h.act a)
      have hact := h.view_act a
      refine ⟨hjoined, ?_⟩
      unfold run PlainPool.run
      rw [← hact]
      dsimp only
      rw [← hrun]

/-- A new pooled factory after a history. -/
def after (max : Nat) (history : List Action) : Session := ((new (.pooled max)).run history).2

/-- The bytes of the buffer under a name. -/
def bytes? (s : Session) (id : String) : Option Bytes := (s.live.lookup id).map Buffer.bytes

theorem bytes?_view (s : Session) (id : String) : s.view.bytes? id = s.bytes? id :=
  Workspace.bytes?_view (s.workspace 0) id

theorem joined_after (max : Nat) (history : List Action) : Joined max (after max history) :=
  ((joined_new max).view_run history).1

theorem run_new (max : Nat) (history : List Action) :
    (((new (.pooled max)).run history).1, (after max history).view)
      = PlainPool.run max .new history := ((joined_new max).view_run history).2

/-- A buffer holds what the steps on its own name left there. -/
theorem bytes?_after (max : Nat) (history : List Action) (id : String) :
    (after max history).bytes? id = content id history := by
  have hrun := congrArg Prod.snd (run_new max history)
  dsimp only at hrun
  rw [← bytes?_view, hrun]
  exact PlainPool.bytes?_run .new id history

/--
**A pool refines a count.** After any history of a pooled factory, its users and their buffers:

* all replies were those of the plain pool, and every user sees what the plain pool holds;
* no more buffers wait than the bound allows, and the memory that waits is empty;
* a step on one buffer leaves the bytes of every other;
* a buffer in use holds what was written to it since it was handed out, and freezes to that;
* whatever happened before a buffer was handed out cannot be told from it.
-/
theorem run_refines_plainPool (max : Nat) (history : List Action) :
    ((new (.pooled max)).run history).1 = (PlainPool.run max .new history).1
      ∧ (∀ user, ((after max history).workspace user).view = (PlainPool.run max .new history).2)
      ∧ (∀ user, ((after max history).workspace user).factory.idle.length ≤ max
          ∧ ∀ m ∈ ((after max history).workspace user).factory.idle, m.val.bytes = [])
      ∧ (∀ user id step other, other ≠ id →
          ((after max history).act (.work user id step)).2.bytes? other
            = (after max history).bytes? other)
      ∧ (∀ id, (after max history).bytes? id = content id history
          ∧ ∀ user, ((after max history).act (.work user id .freeze)).1
              = .frozen ((content id history).getD []))
      ∧ ∀ user id capacity later,
          (after max (history ++ .work user id (.allocate capacity) :: later)).bytes? id
            = (after max (.work user id (.allocate capacity) :: later)).bytes? id := by
  have hjoined := joined_after max history
  have hrun := run_new max history
  have hview : ∀ user, ((after max history).workspace user).view
      = (PlainPool.run max .new history).2 := by
    intro user
    rw [hjoined.view_workspace user, ← hrun]
  refine ⟨congrArg Prod.fst hrun, hview, ?_, ?_, ?_, ?_⟩
  · intro user
    have hidle := PlainPool.idle_run_le (p := .new) (Nat.zero_le max) history
    rw [← hview user] at hidle
    exact ⟨hidle, fun m _ => m.property⟩
  · intro user id step other hne
    have hact := congrArg Prod.snd (hjoined.view_act (.work user id step))
    dsimp only at hact
    rw [← bytes?_view, ← bytes?_view, hact]
    exact congrArg (Option.map _) (PlainPool.live_step_of_ne hne step)
  · intro id
    have hbytes := bytes?_after max history id
    refine ⟨hbytes, ?_⟩
    intro user
    have hact := congrArg Prod.fst (hjoined.view_act (.work user id .freeze))
    rw [← hbytes, ← bytes?_view]
    exact hact
  · -- on the name that is handed out, all that came before is forgotten
    intro user id capacity later
    rw [bytes?_after, bytes?_after]
    unfold content
    rw [List.foldl_append, List.foldl_cons, List.foldl_cons, Action.leave_self, Action.leave_self]
    rfl

end Session

end SocketStrategies
