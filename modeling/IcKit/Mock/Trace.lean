import IcKit.Mock.Effect

/-!
# Mock/Trace — what a run leaves in the reply-callback flag and in the watcher

Two parts of a `MockContext` are functions of the trace of operations alone.

The reply-callback flag is set by `call_raw` and cleared by `call_state_reset()` only, so it
says whether a call was made since the last reset (`callSinceReset`), and `caller()` panics
exactly then; the caller field is the one last configured (`configuredCaller`).

The watcher of one epoch, from a `watch()` on, holds the flags of the watched methods the trace
ran, the types it mutated through `store`, `get_mut` and `delete`, and the calls it made, in
order: each step moves it by the `Watcher.Step` that `step_moves` gives.

* `replyMode_after_run` — the flag, the caller and what `caller()` does, after any run from
  `MockContext::new()`.
* `watcher_epoch` — the watcher after `watch()` and any run without another `watch()`.
-/

namespace IcKit

variable {TypeId : Type} {Ty : TypeId → Type}

/-! ## The reply-callback flag and the caller -/

/-- Whether some `call_raw` of the trace has no `call_state_reset()` after it. -/
def callSinceReset : List (ContextOp Ty) → Bool
  | [] => false
  | op :: ops => (op.isCallRaw && !ops.any ContextOp.isCallStateReset) || callSinceReset ops

/-- The caller the trace configured last with `with_caller` or `update_caller`;
`Principal::anonymous()`, the caller of `MockContext::new()`, when it configured none. -/
def configuredCaller (ops : List (ContextOp Ty)) : Principal :=
  ((ops.filterMap ContextOp.callerSet).getLast?).getD .anonymous

theorem callSinceReset_append_singleton (op : ContextOp Ty) :
    ∀ tr : List (ContextOp Ty), callSinceReset (tr ++ [op]) = op.replyMode (callSinceReset tr)
  | [] => by by_cases h₁ : op.isCallRaw <;> simp [callSinceReset, ContextOp.replyMode, h₁]
  | o :: tr => by
    rw [List.cons_append, callSinceReset, callSinceReset_append_singleton op tr, callSinceReset,
      List.any_append]
    by_cases h₁ : op.isCallRaw
    · simp [ContextOp.replyMode, h₁]
    · by_cases h₂ : op.isCallStateReset <;> simp [ContextOp.replyMode, h₁, h₂]

theorem configuredCaller_append_singleton (tr : List (ContextOp Ty)) (op : ContextOp Ty) :
    configuredCaller (tr ++ [op]) = op.callerSet.getD (configuredCaller tr) := by
  cases hc : op.callerSet <;> simp [configuredCaller, List.filterMap_append, hc]

section Runs

variable [DecidableEq TypeId] [∀ k, Inhabited (Ty k)] {defaultHasher : List UInt8 → UInt64}

/-- **The reply-callback flag over whole runs.**  After any run from `MockContext::new()`, the
flag says whether a `call_raw` was made since the last `call_state_reset()`, and the caller is
the one last configured.  So `caller()` returns that caller when no call was made since the
last reset, and panics otherwise.  No operation but `call_raw` sets the flag, and none but
`call_state_reset()` clears it. -/
theorem replyMode_after_run (ops : List (ContextOp Ty)) (ctx' : MockContext Ty)
    (h : run defaultHasher ops MockContext.new = .ok () ctx') :
    ctx'.isReplyCallbackMode = callSinceReset ops ∧ ctx'.caller = configuredCaller ops ∧
    (callSinceReset ops = false →
      ∃ s, Context.caller ctx'.toMockState = .ok (configuredCaller ops) s) ∧
    (callSinceReset ops = true →
      ∃ s, Context.caller ctx'.toMockState = .error (.replyCallbackMode ctx'.id) s) ∧
    (∀ (op : ContextOp Ty) (c c' : MockContext Ty), op.step defaultHasher c = .ok () c' →
      c'.isReplyCallbackMode = op.replyMode c.isReplyCallbackMode) := by
  obtain ⟨hflag, hcaller⟩ : ctx'.isReplyCallbackMode = callSinceReset ops ∧
      ctx'.caller = configuredCaller ops := by
    refine run_preserves
      (fun tr c => c.isReplyCallbackMode = callSinceReset tr ∧ c.caller = configuredCaller tr)
      (fun _ => True) (fun tr op c c' _ hP hs => ?_) ops [] _ ctx' (fun _ _ => trivial)
      ⟨rfl, rfl⟩ h
    dsimp only at hP ⊢
    rw [callSinceReset_append_singleton, configuredCaller_append_singleton, ← hP.1, ← hP.2]
    exact ⟨(step_moves hs).replyMode, (step_moves hs).caller⟩
  refine ⟨hflag, hcaller, fun hf => ?_, fun ht => ?_, fun op c c' hs => (step_moves hs).replyMode⟩
  · simp only [Context.caller, hflag, hf, ← hcaller]
    exact ⟨_, rfl⟩
  · simp only [Context.caller, hflag, ht]
    exact ⟨_, rfl⟩

end Runs

/-- After a returning call, `caller()` panics: the flag was not cleared on return. -/
theorem caller_panics_after_call :
    ∃ ctx', run (fun _ => 0) [.withHandler (.method Method.new),
        .callRaw .managementCanister "deposit_cycles" [] 0] (MockContext.new : MockContext UnitStorage) =
        .ok () ctx' ∧
      ∃ s, Context.caller ctx'.toMockState = .error (.replyCallbackMode ctx'.id) s := by
  obtain ⟨ctx', h⟩ : ∃ ctx', run (fun _ => 0) [.withHandler (.method Method.new),
      .callRaw .managementCanister "deposit_cycles" [] 0] (MockContext.new : MockContext UnitStorage) =
      .ok () ctx' := ⟨_, rfl⟩
  exact ⟨ctx', h, (replyMode_after_run _ _ h).2.2.2.1 rfl⟩

/-! ## The watcher of one epoch -/

namespace Watcher

theorem isCalled_iff (w : Watcher TypeId) (t : Principal) (m : String) :
    w.isCalled t m = true ↔ ∃ x c, (t, m, x, c) ∈ w.calls.map WatcherCall.request := by
  simp only [isCalled, List.any_eq_true, List.mem_map, WatcherCall.request, Bool.and_eq_true,
    beq_iff_eq, Prod.mk.injEq]
  constructor
  · rintro ⟨a, ha, rfl, rfl⟩
    exact ⟨a.argsRaw, a.cyclesSent, a, ha, rfl, rfl, rfl, rfl⟩
  · rintro ⟨_, _, a, ha, rfl, rfl, -, -⟩
    exact ⟨a, ha, rfl, rfl⟩

theorem isMethodCalled_iff (w : Watcher TypeId) (m : String) :
    w.isMethodCalled m = true ↔ ∃ t x c, (t, m, x, c) ∈ w.calls.map WatcherCall.request := by
  simp only [isMethodCalled, List.any_eq_true, List.mem_map, WatcherCall.request, beq_iff_eq,
    Prod.mk.injEq]
  constructor
  · rintro ⟨a, ha, rfl⟩
    exact ⟨a.canisterId, a.argsRaw, a.cyclesSent, a, ha, rfl, rfl, rfl, rfl⟩
  · rintro ⟨_, _, _, a, ha, -, rfl, -, -⟩
    exact ⟨a, ha, rfl⟩

theorem isCanisterCalled_iff (w : Watcher TypeId) (t : Principal) :
    w.isCanisterCalled t = true ↔ ∃ m x c, (t, m, x, c) ∈ w.calls.map WatcherCall.request := by
  simp only [isCanisterCalled, List.any_eq_true, List.mem_map, WatcherCall.request, beq_iff_eq,
    Prod.mk.injEq]
  constructor
  · rintro ⟨a, ha, rfl⟩
    exact ⟨a.methodName, a.argsRaw, a.cyclesSent, a, ha, rfl, rfl, rfl, rfl⟩
  · rintro ⟨_, _, _, a, ha, rfl, -, -, -⟩
    exact ⟨a, ha, rfl⟩

end Watcher

/-- The watcher holds what the trace ran: the flags of its watched methods, the types it
mutated and its calls, in order. -/
def Watcher.Records [DecidableEq TypeId] (tr : List (ContextOp Ty)) (w : Watcher TypeId) : Prop :=
  (∀ f, w.flag f = true ↔ f ∈ tr.filterMap ContextOp.watched) ∧
  (∀ k, w.isModified k = true ↔ k ∈ tr.filterMap ContextOp.marks) ∧
  w.calls.map WatcherCall.request = tr.filterMap ContextOp.request

theorem Watcher.records_default [DecidableEq TypeId] :
    (default : Watcher TypeId).Records ([] : List (ContextOp Ty)) :=
  ⟨by simp, fun k => by simp [Watcher.isModified, Watcher.default], rfl⟩

theorem Watcher.Records.step [DecidableEq TypeId] {tr : List (ContextOp Ty)} {op : ContextOp Ty}
    {w w' : Watcher TypeId} (hr : w.Records tr)
    (hs : w.Step w' op.watched op.marks op.request.toList) : w'.Records (tr ++ [op]) := by
  refine ⟨fun f => ?_, fun k => ?_, ?_⟩
  · rw [hs.flag_iff, hr.1, List.filterMap_append, List.mem_append]
    cases hw : op.watched <;> simp [List.filterMap_cons, hw, eq_comm]
  · rw [hs.isModified_iff, hr.2.1, List.filterMap_append, List.mem_append]
    cases hm : op.marks <;> simp [List.filterMap_cons, hm, eq_comm]
  · rw [hs.requests_eq, hr.2.2, List.filterMap_append]
    cases hq : op.request <;> simp [List.filterMap_cons, hq]

section Runs

variable [DecidableEq TypeId] [∀ k, Inhabited (Ty k)] {defaultHasher : List UInt8 → UInt64}

/-- **The watcher records one epoch.**  After `watch()` and any run without another `watch()`:
a flag is set exactly when the run ran its method; a type is modified exactly when the run
mutated it through `store`, `get_mut` or `delete`; the call log lists the run's calls, in order,
with their targets, methods, arguments and cycles sent, so `call_count()` counts them and
`is_called`, `is_method_called` and `is_canister_called` look them up.  Nothing from before the
`watch()` remains. -/
theorem watcher_epoch (ctx : MockContext Ty) (ops : List (ContextOp Ty)) (ctx' : MockContext Ty)
    (hw : ∀ op ∈ ops, op.isWatch = false)
    (h : run defaultHasher (.watch :: ops) ctx = .ok () ctx') :
    (∀ f, ctx'.watcher.flag f = true ↔ f ∈ ops.filterMap ContextOp.watched) ∧
    (∀ k, ctx'.watcher.isModified k = true ↔ k ∈ ops.filterMap ContextOp.marks) ∧
    ctx'.watcher.calls.map WatcherCall.request = ops.filterMap ContextOp.request ∧
    ctx'.watcher.callCount = (ops.filterMap ContextOp.request).length ∧
    (∀ t m, ctx'.watcher.isCalled t m = true ↔
      ∃ x c, (t, m, x, c) ∈ ops.filterMap ContextOp.request) ∧
    (∀ m, ctx'.watcher.isMethodCalled m = true ↔
      ∃ t x c, (t, m, x, c) ∈ ops.filterMap ContextOp.request) ∧
    (∀ t, ctx'.watcher.isCanisterCalled t = true ↔
      ∃ m x c, (t, m, x, c) ∈ ops.filterMap ContextOp.request) := by
  obtain ⟨mid, hmid, hrun⟩ := run_cons_eq_ok h
  cases hmid
  obtain ⟨hf, hm, hc⟩ : ctx'.watcher.Records ops :=
    run_preserves (fun tr c => c.watcher.Records tr) (fun op => op.isWatch = false)
      (fun _ _ _ _ hq hP hs => hP.step ((step_moves hs).watcher hq)) ops [] (ctx.modify MockState.watch)
      ctx' hw Watcher.records_default hrun
  refine ⟨hf, hm, hc, by rw [Watcher.callCount, ← hc, List.length_map], fun t m => ?_,
    fun m => ?_, fun t => ?_⟩
  · rw [Watcher.isCalled_iff, hc]
  · rw [Watcher.isMethodCalled_iff, hc]
  · rw [Watcher.isCanisterCalled_iff, hc]

end Runs

/-- After `watch()`, a `store` and a call: the type is marked modified and the call counted. -/
theorem store_and_call_recorded :
    ∃ ctx', run (fun _ => 0) [.watch, .store () (), .callRaw .managementCanister "deposit_cycles" [] 0]
        ((MockContext.new : MockContext UnitStorage).withHandler (.method Method.new)) = .ok () ctx' ∧
      ctx'.watcher.isModified () = true ∧ ctx'.watcher.callCount = 1 := by
  obtain ⟨ctx', h⟩ : ∃ ctx', run (fun _ => 0)
      [.watch, .store () (), .callRaw .managementCanister "deposit_cycles" [] 0]
      ((MockContext.new : MockContext UnitStorage).withHandler (.method Method.new)) = .ok () ctx' :=
    ⟨_, rfl⟩
  have he := watcher_epoch _ _ ctx' (by decide) h
  exact ⟨ctx', h, (he.2.1 ()).2 (by decide), he.2.2.2.1⟩

end IcKit
