import SocketStrategies.Buffer.Factory

/-!
# What comes out of a factory is what was written

An encoder writes into a buffer that may have served before. Spare memory holds no bytes, so the
buffer starts empty, and what is frozen in the end is the encoder's output and nothing else:
neither the kind of the factory nor what waits in it can be told from the bytes.
-/

namespace SocketStrategies

/-! ## Output -/

namespace Output

variable {ε : Type}

theorem done_andThen (b : Bytes) (next : Output ε) :
    (done b).andThen next = ⟨b ++ next.bytes, next.failure⟩ := rfl

theorem done_andThen_done (a b : Bytes) :
    (done a : Output ε).andThen (done b) = done (a ++ b) := rfl

theorem stop_andThen (e : ε) (next : Output ε) : (stop e).andThen next = stop e := rfl

theorem toExcept_done (b : Bytes) : (done b : Output ε).toExcept = .ok b := rfl

theorem toExcept_stop (e : ε) : (stop e).toExcept = .error e := rfl

/-- Output that goes on after a complete part fails with what the rest fails with. -/
theorem toExcept_done_andThen (b : Bytes) (next : Output ε) :
    ((done b).andThen next).toExcept = next.toExcept.map (b ++ ·) := by
  rw [done_andThen]
  unfold toExcept
  cases next.failure with
  | none => rfl
  | some e => rfl

/-- Output that is complete is so whatever its failure would be called. -/
theorem toExcept_of_mapFailure {ε' : Type} {o : Output ε'} {f : ε' → ε} {b : Bytes}
    (h : (Output.mk o.bytes (o.failure.map f)).toExcept = .ok b) : o.toExcept = .ok b := by
  unfold toExcept at h ⊢
  cases hf : o.failure with
  | none =>
      rw [hf] at h
      exact congrArg Except.ok (Except.ok.inj h)
  | some e =>
      rw [hf] at h
      cases h

end Output

/-! ## Factories -/

namespace Factory

variable {ε : Type}

/-- A buffer is empty when it is handed out, whoever had its memory before. -/
theorem bytes_allocate (f : Factory) (capacity : Nat) : (f.allocate capacity).1.bytes = [] := by
  unfold allocate
  split
  · rfl
  · rfl
  · rename_i s waiting _ _
    exact s.property

theorem bytes_write (b : Buffer) (bs : Bytes) : (b.write bs).bytes = b.bytes ++ bs := rfl

/-- The bytes that are frozen are the output. -/
theorem emitFrozen_fst (f : Factory) (capacity : Nat) (o : Output ε) :
    (f.emitFrozen capacity o).1 = o.toExcept := by
  have hb : ((f.allocate capacity).1.write o.bytes).freeze = o.bytes := by
    rw [Buffer.freeze, bytes_write, bytes_allocate, List.nil_append]
  unfold emitFrozen emit Output.toExcept
  cases ho : o.failure with
  | none => simp only [Except.map, hb]
  | some e => rfl

theorem freeze_emit (f : Factory) (capacity : Nat) (o : Output ε) :
    (f.emit capacity o).1.map Buffer.freeze = o.toExcept := emitFrozen_fst f capacity o

end Factory

end SocketStrategies
