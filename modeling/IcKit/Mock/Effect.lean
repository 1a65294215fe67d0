import IcKit.Mock.Run

/-!
# Mock/Effect — what an operation does to each part of the context

The run invariants of `Mock/Storage` and `Mock/Trace` each follow one part of a `MockContext`,
and what an operation does to that part can be read off the operation alone:

* typed storage: the type it names (`touches`);
* stable storage: the bytes it writes (`stored`);
* the reply-callback flag and the caller: `replyMode`, `callerSet`;
* the certified data and the certificate: the payload it certifies (`certifies`);
* the balance and the cycles available, whose sum only the four setters (`setsPurse`) and
  `call_raw` change; and the handler chain, which grows by the handler it adds (`handlerAdded`);
* the watcher: the watched method it runs, the type it mutates and the call it makes
  (`watched`, `marks`, `request`), with `Watcher.Step` saying what a step may do to it.

* `Moves.of_frame` — the frame: what a step that keeps the certified data, the purse and the
  chain does, stated once for the operations that write at most storage, stable bytes, the
  flag, the caller and the watcher.
* `step_moves` — every returning step does to each part what its effect says.  Each run
  invariant takes its step lemma from it.
-/

namespace IcKit

variable {TypeId : Type} {Ty : TypeId → Type}

/-! ## Storage, the flag, the caller and the certified data -/

namespace ContextOp

/-- Whether the operation names type `k`, or clears the whole storage. -/
def touches [DecidableEq TypeId] (op : ContextOp Ty) (k : TypeId) : Bool :=
  match op with
  | .store k' _ | .withData k' _ | .get k' | .getMut k' _ | .delete k' => k' == k
  | .clearStorage => true
  | _ => false

/-- The bytes the operation writes to stable storage: `stable_store` and `with_stable`, when
`encode_args` succeeded. -/
def stored : ContextOp Ty → Option (List UInt8)
  | .stableStore encoded | .withStable encoded => encoded.toOption
  | _ => none

/-- The reply-callback flag after the operation, given the flag before. -/
def replyMode (op : ContextOp Ty) (pending : Bool) : Bool :=
  if op.isCallRaw then true else if op.isCallStateReset then false else pending

/-- The caller the operation configures: `with_caller` and `update_caller`. -/
def callerSet : ContextOp Ty → Option Principal
  | .withCaller p | .updateCaller p => some p
  | _ => none

/-- The payload the operation certifies: `set_certified_data` and `with_certified_data`. -/
def certifies : ContextOp Ty → Option (List UInt8)
  | .setCertifiedData data | .withCertifiedData data => some data
  | _ => none

/-- Whether the operation sets the balance or the cycles available outright. -/
def setsPurse : ContextOp Ty → Bool
  | .updateBalance _ | .updateMsgCycles _ | .withBalance _ | .withMsgCycles _ => true
  | _ => false

/-- The handler the operation appends to the chain: `with_handler`. -/
def handlerAdded : ContextOp Ty → Option (CallHandler Ty)
  | .withHandler h => some h
  | _ => none

end ContextOp

/-! ## The watcher -/

/-- The `called_*` flags of a `Watcher`, one for each watched method. -/
inductive WatcherFlag where
  | id
  | time
  | balance
  | caller
  | msgCyclesAvailable
  | msgCyclesAccept
  | msgCyclesRefunded
  | stableStore
  | stableRestore
  | setCertifiedData
  | dataCertificate
  deriving DecidableEq, Repr

namespace Watcher

/-- The flag `f` of the watcher. -/
def flag (w : Watcher TypeId) : WatcherFlag → Bool
  | .id => w.calledId
  | .time => w.calledTime
  | .balance => w.calledBalance
  | .caller => w.calledCaller
  | .msgCyclesAvailable => w.calledMsgCyclesAvailable
  | .msgCyclesAccept => w.calledMsgCyclesAccept
  | .msgCyclesRefunded => w.calledMsgCyclesRefunded
  | .stableStore => w.calledStableStore
  | .stableRestore => w.calledStableRestore
  | .setCertifiedData => w.calledSetCertifiedData
  | .dataCertificate => w.calledDataCertificate

/-- The watcher with flag `f` set, as the watched method does first. -/
def set (w : Watcher TypeId) : WatcherFlag → Watcher TypeId
  | .id => { w with calledId := true }
  | .time => { w with calledTime := true }
  | .balance => { w with calledBalance := true }
  | .caller => { w with calledCaller := true }
  | .msgCyclesAvailable => { w with calledMsgCyclesAvailable := true }
  | .msgCyclesAccept => { w with calledMsgCyclesAccept := true }
  | .msgCyclesRefunded => { w with calledMsgCyclesRefunded := true }
  | .stableStore => { w with calledStableStore := true }
  | .stableRestore => { w with calledStableRestore := true }
  | .setCertifiedData => { w with calledSetCertifiedData := true }
  | .dataCertificate => { w with calledDataCertificate := true }

theorem flag_set (w : Watcher TypeId) (g f : WatcherFlag) :
    (w.set g).flag f = true ↔ w.flag f = true ∨ some g = some f := by
  cases g <;> cases f <;> simp [set, flag]

@[simp] theorem set_storageModified (w : Watcher TypeId) (g : WatcherFlag) :
    (w.set g).storageModified = w.storageModified := by
  cases g <;> rfl

@[simp] theorem set_calls (w : Watcher TypeId) (g : WatcherFlag) : (w.set g).calls = w.calls := by
  cases g <;> rfl

@[simp] theorem flag_default (f : WatcherFlag) : (default : Watcher TypeId).flag f = false := by
  cases f <;> rfl

end Watcher

/-- What the trace determines of a recorded call: its target, method, arguments and cycles
sent (the refund is the handler's). -/
def WatcherCall.request (c : WatcherCall) : Principal × String × List UInt8 × Nat :=
  (c.canisterId, c.methodName, c.argsRaw, c.cyclesSent)

namespace ContextOp

/-- The watched method the operation runs: each watched method itself, and `with_stable`,
whose body is `stable_store`. -/
def watched : ContextOp Ty → Option WatcherFlag
  | .id => some .id
  | .time _ => some .time
  | .balance => some .balance
  | .caller => some .caller
  | .msgCyclesAvailable => some .msgCyclesAvailable
  | .msgCyclesAccept _ => some .msgCyclesAccept
  | .msgCyclesRefunded => some .msgCyclesRefunded
  | .stableStore _ | .withStable _ => some .stableStore
  | .stableRestore => some .stableRestore
  | .setCertifiedData _ => some .setCertifiedData
  | .dataCertificate => some .dataCertificate
  | _ => none

/-- The type the operation mutates: `store`, `get_mut` and `delete`. -/
def marks : ContextOp Ty → Option TypeId
  | .store k _ | .getMut k _ | .delete k => some k
  | _ => none

/-- The call the operation makes. -/
def request : ContextOp Ty → Option (Principal × String × List UInt8 × Nat)
  | .callRaw t m x c => some (t, m, x, c)
  | _ => none

theorem request_eq_none {op : ContextOp Ty} (h : op.isCallRaw = false) : op.request = none := by
  cases op <;> first | rfl | cases h

end ContextOp

namespace Watcher

variable [DecidableEq TypeId]

/-- What a step may do to the watcher: set the flag `flag`, mark the type `mark` modified and
record calls making `requests`; nothing else, so a step that makes no call keeps the call log. -/
structure Step (w w' : Watcher TypeId) (flag : Option WatcherFlag) (mark : Option TypeId)
    (requests : List (Principal × String × List UInt8 × Nat)) : Prop where
  flag_iff : ∀ f, w'.flag f = true ↔ w.flag f = true ∨ flag = some f
  isModified_iff : ∀ k, w'.isModified k = true ↔ w.isModified k = true ∨ mark = some k
  requests_eq : w'.calls.map WatcherCall.request = w.calls.map WatcherCall.request ++ requests
  calls_eq : requests = [] → w'.calls = w.calls

namespace Step

theorem refl (w : Watcher TypeId) : Step w w none none [] :=
  ⟨by simp, by simp, by simp, fun _ => rfl⟩

theorem set (w : Watcher TypeId) (g : WatcherFlag) : Step w (w.set g) (some g) none [] :=
  ⟨w.flag_set g, by simp [isModified], by simp, fun _ => w.set_calls g⟩

/-- Setting the flag there is, if any, and nothing else: the watcher step of every operation
that neither mutates a type nor calls. -/
theorem of_watched {w w' : Watcher TypeId} {flag : Option WatcherFlag}
    (h : w' = flag.elim w w.set) : Step w w' flag none [] := by
  cases flag with
  | none => exact h ▸ refl w
  | some g => exact h ▸ set w g

theorem mark (w : Watcher TypeId) (k : TypeId) : Step w (w.markModified k) none (some k) [] :=
  ⟨fun f => by cases f <;> simp [flag, markModified],
    fun k' => by
      simp only [isModified, markModified, decide_eq_true_eq, List.mem_insert_iff,
        Option.some.injEq]
      exact ⟨fun h => h.elim (fun e => .inr e.symm) .inl, fun h => h.elim .inr (fun e => .inl e.symm)⟩,
    by simp, fun _ => rfl⟩

theorem record (w : Watcher TypeId) (call : WatcherCall) :
    Step w (w.recordCall call) none none [call.request] :=
  ⟨fun f => by cases f <;> simp [flag, recordCall], fun k => by simp [isModified, recordCall],
    by simp, nofun⟩

end Step

end Watcher

/-! ## Every step does what its effect says -/

section Moves

variable [DecidableEq TypeId]

/-- What a returning step from `ctx` to `ctx'` does, part by part: the slot of a type the
operation does not name stays; stable storage takes the bytes written; the flag and the caller
move as `replyMode` and `callerSet` say; but for `watch()`, the watcher takes one
`Watcher.Step`; an operation that certifies nothing leaves the certified data and the
certificate; and but for `call_raw`, the sum of the balance and the cycles available stays unless
the operation sets one of them, the chain grows by the handler added, and, `watch()` apart, the
call log stays. -/
structure ContextOp.Moves (op : ContextOp Ty) (ctx ctx' : MockContext Ty) : Prop where
  storage : ∀ k, op.touches k = false → ctx'.storage k = ctx.storage k
  stable : ctx'.stable = op.stored.getD ctx.stable
  replyMode : ctx'.isReplyCallbackMode = op.replyMode ctx.isReplyCallbackMode
  caller : ctx'.caller = op.callerSet.getD ctx.caller
  watcher : op.isWatch = false →
    ctx.watcher.Step ctx'.watcher op.watched op.marks op.request.toList
  certified : op.certifies = none →
    ctx'.certifiedData = ctx.certifiedData ∧ ctx'.certificate = ctx.certificate
  purse : op.isCallRaw = false → op.setsPurse = false →
    ctx'.balance + ctx'.cycles = ctx.balance + ctx.cycles
  handlers : op.isCallRaw = false → ctx'.handlers = ctx.handlers ++ op.handlerAdded.toList
  calls : op.isCallRaw = false → op.isWatch = false → ctx'.watcher.calls = ctx.watcher.calls

variable {op : ContextOp Ty} {ctx ctx' : MockContext Ty}

/-- **The frame of a step.**  A step that writes, of the parts `Moves` follows, only the storage
cells the operation names, the bytes it stores, the reply flag and the caller its effect gives,
and the watcher by one `Watcher.Step`, keeping the certified data, the balance, the cycles
available and the chain, does what its effect says.  Every operation but `call_raw`, the two
certifying ones, `msg_cycles_accept`, the four setters of the purse and `with_handler` is such
a step. -/
theorem ContextOp.Moves.of_frame {st : TypeId → Option (AnyBox Ty)} {w : Watcher TypeId}
    {i : Principal} {tr : Bool} {cr : Nat}
    (h : ctx' = { ctx with
      storage := st, watcher := w, stable := op.stored.getD ctx.stable,
      isReplyCallbackMode := op.replyMode ctx.isReplyCallbackMode,
      caller := op.callerSet.getD ctx.caller, id := i, trapped := tr, cyclesRefunded := cr })
    (hadd : op.handlerAdded = none) (hst : ∀ k, op.touches k = false → st k = ctx.storage k)
    (hw : op.isWatch = false → ctx.watcher.Step w op.watched op.marks op.request.toList) :
    op.Moves ctx ctx' := by
  subst h
  refine ⟨hst, rfl, rfl, rfl, hw, fun _ => ⟨rfl, rfl⟩, fun _ _ => rfl, fun _ => ?_,
    fun hcr hw' => (hw hw').calls_eq (by rw [ContextOp.request_eq_none hcr]; rfl)⟩
  rw [hadd, Option.toList_none, List.append_nil]

/-- A write to the slot of `k'` keeps the slot of every other type. -/
theorem update_storage_of_touches {k' : TypeId} {b : Option (AnyBox Ty)} (k : TypeId)
    (hk : (k' == k) = false) : Function.update ctx.storage k' b k = ctx.storage k :=
  Function.update_noteq (Ne.symm (ne_of_beq_false hk)) _ _

variable [∀ k, Inhabited (Ty k)] {defaultHasher : List UInt8 → UInt64}

/-- **Every returning step does what its effect says.**  The operations with a branch are
inverted by their lemmas of `Mock/Context` and `Mock/CallRaw`; the others return one context.
All but the seven that change a part the frame keeps go through `Moves.of_frame`. -/
theorem step_moves (h : op.step defaultHasher ctx = .ok () ctx') : op.Moves ctx ctx' := by
  cases op <;> dsimp only [ContextOp.step] at h
  case trap message => cases h
  case callRaw t m x c =>
    obtain ⟨_, hc⟩ := Outcome.bind_discard_eq_ok h
    obtain ⟨-, _, _, _, _, _, -, -, -, rfl⟩ := MockContext.callRaw_of_ok hc
    exact ⟨fun _ _ => rfl, rfl, rfl, rfl, fun _ => .record _ _, fun _ => ⟨rfl, rfl⟩, nofun, nofun,
      nofun⟩
  case setCertifiedData data =>
    obtain ⟨_, _, hs, rfl⟩ := MockContext.lift_eq_ok h
    obtain ⟨-, _, -, rfl⟩ := Context.setCertifiedData_of_ok hs
    exact ⟨fun _ _ => rfl, rfl, rfl, rfl, fun _ => .of_watched rfl, nofun, fun _ _ => rfl,
      fun _ => (List.append_nil _).symm, fun _ _ => rfl⟩
  case withCertifiedData data =>
    obtain ⟨_, _, hs, rfl⟩ := MockContext.lift_eq_ok h
    obtain ⟨-, _, -, rfl⟩ := MockState.withCertifiedData_of_ok hs
    exact ⟨fun _ _ => rfl, rfl, rfl, rfl, fun _ => .of_watched rfl, nofun, fun _ _ => rfl,
      fun _ => (List.append_nil _).symm, fun _ _ => rfl⟩
  case msgCyclesAccept n =>
    obtain ⟨_, _, hs, rfl⟩ := MockContext.lift_eq_ok h
    rw [(Context.msgCyclesAccept_of_ok' hs).2]
    exact ⟨fun _ _ => rfl, rfl, rfl, rfl, fun _ => .of_watched rfl, fun _ => ⟨rfl, rfl⟩,
      fun _ _ => by dsimp only; omega, fun _ => (List.append_nil _).symm, fun _ _ => rfl⟩
  case updateBalance | updateMsgCycles | withBalance | withMsgCycles =>
    cases h
    exact ⟨fun _ _ => rfl, rfl, rfl, rfl, fun _ => .of_watched rfl, fun _ => ⟨rfl, rfl⟩,
      fun _ => nofun, fun _ => (List.append_nil _).symm, fun _ _ => rfl⟩
  case withHandler hd =>
    cases h
    exact ⟨fun _ _ => rfl, rfl, rfl, rfl, fun _ => .of_watched rfl, fun _ => ⟨rfl, rfl⟩,
      fun _ _ => rfl, fun _ => rfl, fun _ _ => rfl⟩
  case store k' data | delete k' =>
    cases h
    exact .of_frame rfl rfl update_storage_of_touches fun _ => .mark _ k'
  case withData k' data =>
    cases h
    exact .of_frame rfl rfl update_storage_of_touches fun _ => .of_watched rfl
  case get k' =>
    obtain ⟨_, _, hs, rfl⟩ := MockContext.lift_eq_ok h
    rw [(Context.get_of_ok hs).2]
    exact .of_frame rfl rfl update_storage_of_touches fun _ => .of_watched rfl
  case getMut k' write =>
    obtain ⟨_, _, hs, rfl⟩ := MockContext.lift_eq_ok h
    obtain ⟨_, -, -, rfl⟩ := Context.getMut_of_ok hs
    exact .of_frame rfl rfl update_storage_of_touches fun _ => .mark _ k'
  case clearStorage =>
    cases h
    exact .of_frame rfl rfl (fun _ => nofun) fun _ => .of_watched rfl
  case watch =>
    cases h
    exact .of_frame rfl rfl (fun _ _ => rfl) nofun
  case caller =>
    obtain ⟨_, _, hs, rfl⟩ := MockContext.lift_eq_ok h
    rw [(Context.caller_of_ok hs).2.2]
    exact .of_frame rfl rfl (fun _ _ => rfl) fun _ => .of_watched rfl
  case stableStore encoded =>
    obtain ⟨_, _, hs, rfl⟩ := MockContext.lift_eq_ok h
    rw [Context.stableStore_of_ok hs]
    exact .of_frame rfl rfl (fun _ _ => rfl) fun _ => .of_watched rfl
  case withStable encoded =>
    obtain ⟨_, _, hs, rfl⟩ := MockContext.lift_eq_ok h
    obtain ⟨_, rfl, rfl⟩ := MockState.withStable_of_ok hs
    exact .of_frame rfl rfl (fun _ _ => rfl) fun _ => .of_watched rfl
  all_goals
    cases h
    exact .of_frame rfl rfl (fun _ _ => rfl) fun _ => .of_watched rfl

/-- The one operation `step_moves` leaves open: a `call_raw`, which adds no handler. -/
theorem step_callRaw (hcr : op.isCallRaw = true) (h : op.step defaultHasher ctx = .ok () ctx') :
    (∃ t m x c res, ctx.callRaw t m x c = .ok res ctx') ∧ op.handlerAdded = none := by
  cases op <;> simp only [ContextOp.isCallRaw, reduceCtorEq] at hcr
  obtain ⟨_, hcall⟩ := Outcome.bind_discard_eq_ok h
  exact ⟨⟨_, _, _, _, _, hcall⟩, rfl⟩

end Moves

end IcKit
