import IcKit.Mock.Effect

/-!
# Mock/Conservation — cycles over whole runs

When every handler of the chain is `Method`-backed, no call gets back more than it sent.  So the
balance, the cycles available and the cycles the recorded calls consumed add up, from a
`watch()` on, to what the balance and the cycles available were at the `watch()`.  The run may
perform any operation but a new `watch()` and the four that set the balance or the available
cycles outright; a handler added on the way must be `Method`-backed too.

* `conserves_callRaw` — a call keeps the ledger, since a `Method`-backed handler refunds at most
  what it was sent (`CallHandler.perform_refund_le`).
* `conserves_step` — one step keeps the ledger: a call by `conserves_callRaw`, any other
  operation by what `step_moves` says of the purse, the chain and the call log.
* `cycles_conserved` — the ledger after every run.
-/

namespace IcKit

variable {TypeId : Type} {Ty : TypeId → Type}

namespace CallHandler

theorem MethodBacked.withContext {h : CallHandler Ty} (hm : h.MethodBacked) (s : MockState Ty) :
    (h.withContext s).MethodBacked := by
  cases h <;> exact hm

end CallHandler

theorem Watcher.consumedTotal_recordCall (w : Watcher TypeId) (call : WatcherCall) :
    (w.recordCall call).consumedTotal = w.consumedTotal + (call.cyclesSent - call.cyclesRefunded) := by
  simp [Watcher.consumedTotal, Watcher.recordCall]

/-- In exact arithmetic the cycles sent are those consumed plus those refunded, once no call
got back more than it sent. -/
theorem Watcher.sentTotal_eq (w : Watcher TypeId)
    (h : ∀ call ∈ w.calls, call.cyclesRefunded ≤ call.cyclesSent) :
    w.sentTotal = w.consumedTotal + w.refundedTotal := by
  unfold sentTotal consumedTotal refundedTotal
  revert h
  induction w.calls with
  | nil => intro; rfl
  | cons c cs ih =>
    intro h
    simp only [List.mem_cons, forall_eq_or_imp] at h
    simp only [List.map_cons, List.sum_cons, ih h.2]
    have := h.1
    omega

/-- `Watcher::cycles_consumed` returns the cycles consumed when no call got back more than it
sent and their total fits in a `u64`. -/
theorem Watcher.cyclesConsumed_eq_ok (w : Watcher TypeId)
    (hle : ∀ call ∈ w.calls, call.cyclesRefunded ≤ call.cyclesSent)
    (hfit : w.consumedTotal ≤ u64Max) : w.cyclesConsumed = .ok w.consumedTotal := by
  have hterm : ∀ c ∈ w.calls, c.cyclesConsumed = .ok (c.cyclesSent - c.cyclesRefunded) :=
    fun c hc => if_pos (hle c hc)
  exact (sumU64_eq_ok_iff _ (Nat.zero_le _) w.calls hterm _).2
    ⟨by rwa [Nat.zero_add], (Nat.zero_add _).symm⟩

/-- The operations of a run that conserves cycles: all but `watch()` and the setters of the
balance and of the cycles available; a handler added must be `Method`-backed. -/
def ContextOp.KeepsCycles : ContextOp Ty → Prop
  | .updateBalance _ | .updateMsgCycles _ | .withBalance _ | .withMsgCycles _ | .watch => False
  | .withHandler h => h.MethodBacked
  | _ => True

/-- What a step that keeps cycles may do: it is no `watch()`, sets no purse, and adds only a
`Method`-backed handler. -/
theorem ContextOp.KeepsCycles.effect {op : ContextOp Ty} (hq : op.KeepsCycles) :
    op.isWatch = false ∧ op.setsPurse = false ∧ ∀ h ∈ op.handlerAdded, h.MethodBacked := by
  cases op
  case withHandler hd => exact ⟨rfl, rfl, fun _ hm => Option.mem_some_iff.1 hm ▸ hq⟩
  case updateBalance | updateMsgCycles | withBalance | withMsgCycles | watch => exact hq.elim
  all_goals exact ⟨rfl, rfl, nofun⟩

/-- The ledger of a context against `total`: no recorded call got back more than it sent; the
balance, the cycles available and the cycles consumed by the recorded calls add up to `total`;
and every handler is `Method`-backed. -/
def Conserves (total : Nat) (ctx : MockContext Ty) : Prop :=
  (∀ call ∈ ctx.watcher.calls, call.cyclesRefunded ≤ call.cyclesSent) ∧
  ctx.balance + ctx.cycles + ctx.watcher.consumedTotal = total ∧
  ∀ h ∈ ctx.handlers, h.MethodBacked

variable {ctx ctx' : MockContext Ty} {total : Nat}

/-- A returning `call_raw` from a context whose handlers are `Method`-backed keeps the ledger:
the refund is at most the cycles sent, which the call records as consumed. -/
theorem conserves_callRaw {t : Principal} {m : String} {x : List UInt8} {c : Nat}
    {res : CallResult} (hc : Conserves total ctx) (h : ctx.callRaw t m x c = .ok res ctx') :
    Conserves total ctx' := by
  obtain ⟨hcb, k, hd, r, hd', st, hk, hp, -, rfl⟩ := MockContext.callRaw_of_ok h
  have hmb : hd.MethodBacked := hc.2.2 hd (List.getElem?_mem hk)
  have hr : r ≤ c := CallHandler.perform_refund_le hmb hp
  obtain ⟨s, hs⟩ := hd.perform_state_handler ctx.id c t m x none
  rw [hp] at hs
  refine ⟨?_, ?_, fun h' hh' => ?_⟩
  · simp only [Watcher.recordCall_calls, List.mem_append, List.mem_singleton]
    rintro call (hcall | rfl)
    · exact hc.1 call hcall
    · exact hr
  · have := hc.2.1
    simp only [Watcher.consumedTotal_recordCall] at this ⊢
    omega
  · rcases List.mem_or_eq_of_mem_set hh' with hh' | rfl
    · exact hc.2.2 h' hh'
    · rw [show h' = hd.withContext s from hs]
      exact hmb.withContext s

variable [DecidableEq TypeId] [∀ k, Inhabited (Ty k)] {defaultHasher : List UInt8 → UInt64}
  {op : ContextOp Ty}

/-- **One step keeps the ledger.** -/
theorem conserves_step (hq : op.KeepsCycles) (hc : Conserves total ctx)
    (h : op.step defaultHasher ctx = .ok () ctx') : Conserves total ctx' := by
  cases hcr : op.isCallRaw
  · obtain ⟨hw, hp, hadd⟩ := hq.effect
    have hm := step_moves h
    have hcalls := hm.calls hcr hw
    refine ⟨hcalls ▸ hc.1, ?_, fun h' hh' => ?_⟩
    · have hsame : ctx'.watcher.consumedTotal = ctx.watcher.consumedTotal := by
        simp only [Watcher.consumedTotal, hcalls]
      have := hc.2.1
      have := hm.purse hcr hp
      omega
    · rw [hm.handlers hcr, List.mem_append] at hh'
      exact hh'.elim (hc.2.2 h') fun hm' => hadd h' (Option.mem_toList.1 hm')
  · obtain ⟨⟨_, _, _, _, _, hcall⟩, -⟩ := step_callRaw hcr h
    exact conserves_callRaw hc hcall

/-- **Cycle conservation over whole runs.**  Start from a context whose handlers are all
`Method`-backed, `watch()`, and run any operations but a new `watch()` and the setters of the
balance and of the cycles available, adding only `Method`-backed handlers.  Then every recorded
call got back at most what it sent, so `WatcherCall::cycles_consumed` does not underflow; the
balance, the cycles available and the cycles consumed add up to the balance and cycles
available at the `watch()`; and the cycles sent are those consumed plus those refunded. -/
theorem cycles_conserved (ctx : MockContext Ty) (ops : List (ContextOp Ty)) (ctx' : MockContext Ty)
    (hh : ∀ h ∈ ctx.handlers, h.MethodBacked) (hq : ∀ op ∈ ops, op.KeepsCycles)
    (h : run defaultHasher (.watch :: ops) ctx = .ok () ctx') :
    (∀ call ∈ ctx'.watcher.calls,
      call.cyclesRefunded ≤ call.cyclesSent ∧
        call.cyclesConsumed = .ok (call.cyclesSent - call.cyclesRefunded)) ∧
    ctx'.balance + ctx'.cycles + ctx'.watcher.consumedTotal = ctx.balance + ctx.cycles ∧
    ctx'.watcher.sentTotal = ctx'.watcher.consumedTotal + ctx'.watcher.refundedTotal := by
  obtain ⟨mid, hmid, hrun⟩ := run_cons_eq_ok h
  cases hmid
  obtain ⟨hle, htotal, -⟩ : Conserves (ctx.balance + ctx.cycles) ctx' :=
    run_preserves (fun _ c => Conserves (ctx.balance + ctx.cycles) c) ContextOp.KeepsCycles
      (fun _ _ _ _ hq hc hs => conserves_step hq hc hs) ops [] (ctx.modify MockState.watch) ctx'
      hq ⟨by simp [MockContext.modify, MockState.watch], by
        simp [MockContext.modify, MockState.watch, Watcher.consumedTotal], hh⟩ hrun
  exact ⟨fun call hcall => ⟨hle call hcall, if_pos (hle call hcall)⟩, htotal,
    ctx'.watcher.sentTotal_eq hle⟩

/-- A context whose one handler refunds 30 of the cycles it is sent. -/
def refundingThirty : MockContext UnitStorage := MockContext.new.withRefundCyclesHandler 30

/-- Watching `refundingThirty`, calling with 100 cycles and accepting none: 70 are consumed,
and the balance is down by as much. -/
theorem refundingThirty_conserved :
    ∃ ctx', run (fun _ => 0)
        [.watch, .callRaw .managementCanister "deposit_cycles" [] 100, .msgCyclesAccept 5]
        refundingThirty = .ok () ctx' ∧
      ctx'.watcher.consumedTotal = 70 ∧
      ctx'.balance + ctx'.cycles + ctx'.watcher.consumedTotal =
        refundingThirty.balance + refundingThirty.cycles :=
  ⟨_, rfl, rfl, (@cycles_conserved _ _ _ _ (fun _ => 0) refundingThirty
    [.callRaw .managementCanister "deposit_cycles" [] 100, .msgCyclesAccept 5] _
    (by simp [refundingThirty, MockContext.withRefundCyclesHandler, MockContext.withHandler,
      MockContext.new, CallHandler.MethodBacked])
    (by simp [ContextOp.KeepsCycles]) rfl).2.1⟩

/-! ## The `u64` totals of the watcher -/

/-- **`Watcher::cycles_consumed` cannot overflow.**  Start from a context whose handlers are all
`Method`-backed and whose balance and cycles available add up to a `u64`, `watch()`, and run any
operations that conserve cycles.  Then `cycles_consumed()` returns the cycles consumed, which
the balance and cycles available at the `watch()` bound.  `cycles_sent()` and
`cycles_refunded()` have no such bound: each returns exactly when its total fits in a `u64`. -/
theorem watcher_totals (ctx : MockContext Ty) (ops : List (ContextOp Ty)) (ctx' : MockContext Ty)
    (hh : ∀ h ∈ ctx.handlers, h.MethodBacked) (hq : ∀ op ∈ ops, op.KeepsCycles)
    (hfit : ctx.balance + ctx.cycles ≤ u64Max)
    (h : run defaultHasher (.watch :: ops) ctx = .ok () ctx') :
    ctx'.watcher.cyclesConsumed = .ok ctx'.watcher.consumedTotal ∧
    (∀ n, ctx'.watcher.cyclesSent = .ok n ↔
      ctx'.watcher.sentTotal ≤ u64Max ∧ n = ctx'.watcher.sentTotal) ∧
    (∀ n, ctx'.watcher.cyclesRefunded = .ok n ↔
      ctx'.watcher.refundedTotal ≤ u64Max ∧ n = ctx'.watcher.refundedTotal) := by
  obtain ⟨mid, hmid, hrun⟩ := run_cons_eq_ok h
  cases hmid
  obtain ⟨hle, htotal, -⟩ : Conserves (ctx.balance + ctx.cycles) ctx' :=
    run_preserves (fun _ c => Conserves (ctx.balance + ctx.cycles) c) ContextOp.KeepsCycles
      (fun _ _ _ _ hq hc hs => conserves_step hq hc hs) ops [] (ctx.modify MockState.watch) ctx'
      hq ⟨by simp [MockContext.modify, MockState.watch], by
        simp [MockContext.modify, MockState.watch, Watcher.consumedTotal], hh⟩ hrun
  refine ⟨ctx'.watcher.cyclesConsumed_eq_ok hle (by omega), fun n => ?_, fun n => ?_⟩
  · simpa [Watcher.cyclesSent, Watcher.sentTotal] using
      sumU64_eq_ok_iff WatcherCall.cyclesSent (Nat.zero_le _) _ (fun _ _ => rfl) n
  · simpa [Watcher.cyclesRefunded, Watcher.refundedTotal] using
      sumU64_eq_ok_iff WatcherCall.cyclesRefunded (Nat.zero_le _) _ (fun _ _ => rfl) n

/-- A context of `u64::MAX` cycles whose one handler refunds `u64::MAX`. -/
def refundingAll : MockContext UnitStorage :=
  { MockContext.new.withRefundCyclesHandler u64Max with balance := u64Max }

/-- Two calls of `u64::MAX` cycles from `refundingAll`, each refunded in full: nothing was
consumed and `cycles_consumed()` says so, but `cycles_sent()` overflows. -/
theorem sent_overflows_consumed_fits :
    ∃ ctx', run (fun _ => 0) [.watch, .callRaw .managementCanister "deposit_cycles" [] u64Max,
        .callRaw .managementCanister "deposit_cycles" [] u64Max] refundingAll = .ok () ctx' ∧
      ctx'.watcher.cyclesConsumed = .ok ctx'.watcher.consumedTotal ∧
      ctx'.watcher.cyclesSent = .error .addOverflow :=
  ⟨_, rfl, (@watcher_totals _ _ _ _ (fun _ => 0) refundingAll
    [.callRaw .managementCanister "deposit_cycles" [] u64Max,
      .callRaw .managementCanister "deposit_cycles" [] u64Max] _
    (by simp [refundingAll, MockContext.withRefundCyclesHandler, MockContext.withHandler,
      MockContext.new, CallHandler.MethodBacked])
    (by simp [ContextOp.KeepsCycles]) (by decide) rfl).1, rfl⟩

end IcKit
