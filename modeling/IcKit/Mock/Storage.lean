import IcKit.Mock.Effect

/-!
# Mock/Storage — typed storage over whole runs

The storage maps a type id to a `Box<dyn Any>`.  Its representation invariant is that the slot
at `k` holds a value of type `k`, so the `downcast_mut` of `get` and `get_mut` cannot fail.
Above it, the slot of each type behaves as one cell: `slotAfter k ops` is that cell as the
trace leaves it, computed from the trace alone.

* `step_slot` — one step moves a well-typed slot as `ContextOp.slot` says; a step that does
  not name `k` leaves the slot at `k` as it was (`step_moves`).
* `storage_typed` — along every run from `MockContext::new()`, the invariant, the cell, and
  what `get`, `get_mut` and `delete` return.

Stable storage is one byte buffer: `stableAfter ops` is the last write that succeeded.

* `stable_last_write` — along every run, the buffer and what `stable_restore()` decodes.
-/

namespace IcKit

variable {TypeId : Type} [DecidableEq TypeId] {Ty : TypeId → Type} [∀ k, Inhabited (Ty k)]

namespace ContextOp

/-- The cell of type `k` after the operation, `none` when there is no slot: a write stores its
value, `get` and `get_mut` create the slot with `T::default()` when it is missing, `delete`
and `clear_storage` empty it. -/
def slot (op : ContextOp Ty) (k : TypeId) (a : Option (Ty k)) : Option (Ty k) :=
  match op with
  | .store k' data | .withData k' data => if h : k' = k then some (h ▸ data) else a
  | .get k' => if k' = k then some (a.getD default) else a
  | .getMut k' write => if h : k' = k then some ((h ▸ write) (a.getD default)) else a
  | .delete k' => if k' = k then none else a
  | .clearStorage => none
  | _ => a

theorem slot_of_touches_eq_false {op : ContextOp Ty} {k : TypeId} (a : Option (Ty k))
    (h : op.touches k = false) : op.slot k a = a := by
  cases op <;> simp_all [touches, slot]

end ContextOp

/-- The cell of type `k` after the trace, from empty storage. -/
def slotAfter (k : TypeId) (ops : List (ContextOp Ty)) : Option (Ty k) :=
  ops.foldl (fun a op => op.slot k a) none

/-! ## One step -/

variable {defaultHasher : List UInt8 → UInt64} {ctx ctx' : MockContext Ty}

/-- **One step moves a well-typed slot as `ContextOp.slot` says.** -/
theorem step_slot {op : ContextOp Ty} {k : TypeId} {a : Option (Ty k)}
    (hk : ctx.storage k = a.map (Sigma.mk k)) (h : op.step defaultHasher ctx = .ok () ctx') :
    ctx'.storage k = (op.slot k a).map (Sigma.mk k) := by
  cases ht : op.touches k
  · rw [(step_moves h).storage k ht, ContextOp.slot_of_touches_eq_false a ht, hk]
  cases op <;> simp only [ContextOp.touches, beq_iff_eq, Bool.false_eq_true] at ht <;>
    dsimp only [ContextOp.step] at h
  case store k' data | withData k' data | delete k' =>
    subst ht
    cases h
    simp [ContextOp.slot, MockContext.modify, MockState.withData]
  case get k' =>
    subst ht
    obtain ⟨_, _, hs, rfl⟩ := MockContext.lift_eq_ok h
    rw [(Context.get_of_ok hs).2]
    cases a <;> simp [ContextOp.slot, hk]
  case getMut k' write =>
    subst ht
    obtain ⟨_, _, hs, rfl⟩ := MockContext.lift_eq_ok h
    obtain ⟨v₀, hv, -, rfl⟩ := Context.getMut_of_ok hs
    obtain rfl : v₀ = a.getD default := by cases a <;> simp_all
    simp [ContextOp.slot]
  case clearStorage =>
    cases h
    rfl

/-! ## The queries on a well-typed slot -/

section Queries

variable {s : MockState Ty} {k : TypeId} {a : Option (Ty k)}

theorem get_of_slot (hk : s.storage k = a.map (Sigma.mk k)) :
    Context.get k s = .ok (a.getD default)
      { s with storage := Function.update s.storage k (some ⟨k, a.getD default⟩) } := by
  cases a <;> simp [Context.get, hk]

theorem getMut_of_slot (write : Ty k → Ty k) (hk : s.storage k = a.map (Sigma.mk k)) :
    Context.getMut k write s = .ok (write (a.getD default)) { s with
      watcher := s.watcher.markModified k
      storage := Function.update s.storage k (some ⟨k, write (a.getD default)⟩) } := by
  cases a <;> simp [Context.getMut, hk]

omit [∀ k, Inhabited (Ty k)] in
theorem delete_of_slot (hk : s.storage k = a.map (Sigma.mk k)) :
    Context.delete k s = .ok a.isSome { s with
      watcher := s.watcher.markModified k
      storage := Function.update s.storage k none } := by
  cases a <;> simp [Context.delete, hk]

end Queries

/-! ## Along a run -/

/-- Every slot holds the cell of its type that the trace leaves. -/
def SlotsFollow (tr : List (ContextOp Ty)) (ctx : MockContext Ty) : Prop :=
  ∀ k, ctx.storage k = (slotAfter k tr).map (Sigma.mk k)

theorem slotsFollow_step (tr : List (ContextOp Ty)) (op : ContextOp Ty) (hP : SlotsFollow tr ctx)
    (h : op.step defaultHasher ctx = .ok () ctx') : SlotsFollow (tr ++ [op]) ctx' := fun k => by
  rw [step_slot (hP k) h]
  simp [slotAfter]

/-- **Typed storage along every run.**  After any run from `MockContext::new()`: every slot
holds a value of its own type; `get` and `get_mut` return the cell of their type, so their
downcast never fails; `delete` returns whether the cell exists.  An operation that does not
name a type, on any context, leaves that type's slot as it was. -/
theorem storage_typed (ops : List (ContextOp Ty)) (ctx' : MockContext Ty)
    (h : run defaultHasher ops MockContext.new = .ok () ctx') :
    (∀ k b, ctx'.storage k = some b → b.1 = k) ∧
    (∀ k, ∃ s, Context.get k ctx'.toMockState = .ok ((slotAfter k ops).getD default) s) ∧
    (∀ k write, ∃ s,
      Context.getMut k write ctx'.toMockState = .ok (write ((slotAfter k ops).getD default)) s) ∧
    (∀ k, ∃ s, Context.delete k ctx'.toMockState = .ok (slotAfter k ops).isSome s) ∧
    (∀ k (op : ContextOp Ty) (c c' : MockContext Ty), op.touches k = false →
      op.step defaultHasher c = .ok () c' → c'.storage k = c.storage k) := by
  have hP : SlotsFollow ops ctx' :=
    run_preserves SlotsFollow (fun _ => True) (fun tr op _ _ _ hP h => slotsFollow_step tr op hP h)
      ops [] _ _ (fun _ _ => trivial) (fun _ => rfl) h
  refine ⟨fun k b hb => ?_, fun k => ⟨_, get_of_slot (hP k)⟩,
    fun k write => ⟨_, getMut_of_slot write (hP k)⟩, fun k => ⟨_, delete_of_slot (hP k)⟩,
    fun k op c c' hk hs => (step_moves hs).storage k hk⟩
  rw [hP k] at hb
  obtain ⟨v, -, rfl⟩ := Option.map_eq_some'.1 hb
  rfl

/-- A slot that `get` created is one that `delete` finds. -/
theorem get_then_delete_finds_slot :
    ∃ ctx', run (fun _ => 0) [.get ()] (MockContext.new : MockContext UnitStorage) = .ok () ctx' ∧
      ∃ s, Context.delete () ctx'.toMockState = .ok true s := by
  obtain ⟨ctx', h⟩ : ∃ ctx', run (fun _ => 0) [.get ()] (MockContext.new : MockContext UnitStorage) =
      .ok () ctx' := ⟨_, rfl⟩
  exact ⟨ctx', h, (storage_typed _ _ h).2.2.2.1 ()⟩

/-! ## Stable storage -/

/-- Stable storage after the trace: the bytes of its last write that succeeded, or the empty
buffer of `MockContext::new()`. -/
def stableAfter (ops : List (ContextOp Ty)) : List UInt8 :=
  ((ops.filterMap ContextOp.stored).getLast?).getD []

omit [DecidableEq TypeId] [∀ k, Inhabited (Ty k)] in
theorem stableAfter_append_singleton (tr : List (ContextOp Ty)) (op : ContextOp Ty) :
    stableAfter (tr ++ [op]) = op.stored.getD (stableAfter tr) := by
  cases hs : op.stored <;> simp [stableAfter, List.filterMap_append, hs]

/-- **Stable storage over whole runs.**  After any run from `MockContext::new()`, stable
storage holds the bytes of the run's last `stable_store` or `with_stable` whose encoding
succeeded, and `stable_restore()` decodes those bytes. -/
theorem stable_last_write {α : Type} (decode : List UInt8 → Except String α)
    (ops : List (ContextOp Ty)) (ctx' : MockContext Ty)
    (h : run defaultHasher ops MockContext.new = .ok () ctx') :
    ctx'.stable = stableAfter ops ∧
      ∃ s, Context.stableRestore decode ctx'.toMockState = .ok (decode (stableAfter ops)) s := by
  have hs : ctx'.stable = stableAfter ops :=
    run_preserves (fun tr c => c.stable = stableAfter tr) (fun _ => True)
      (fun tr op _ _ _ hP hs => by
        dsimp only at hP ⊢
        rw [stableAfter_append_singleton, ← hP]
        exact (step_moves hs).stable)
      ops [] _ _ (fun _ _ => trivial) rfl h
  exact ⟨hs, _, by rw [Context.stableRestore, hs]⟩

/-- `with_stable` of some bytes, then a `stable_store` whose encoding fails: the bytes stay. -/
theorem failed_store_keeps_stable :
    ∃ ctx', run (fun _ => 0) [.withStable (.ok [1, 2]), .stableStore (.error "e")]
        (MockContext.new : MockContext UnitStorage) = .ok () ctx' ∧
      ∃ s, Context.stableRestore (fun b => (.ok b : Except String (List UInt8))) ctx'.toMockState =
        .ok (.ok [1, 2]) s := by
  obtain ⟨ctx', h⟩ : ∃ ctx', run (fun _ => 0) [.withStable (.ok [1, 2]), .stableStore (.error "e")]
      (MockContext.new : MockContext UnitStorage) = .ok () ctx' := ⟨_, rfl⟩
  exact ⟨ctx', h, (stable_last_write (fun b => .ok b) _ _ h).2⟩

end IcKit
