import IcKit.Mock.Effect
import IcKit.Handler.CanisterSpec

/-!
# Mock/Handlers — a context and the handlers it calls, over whole runs

A `Canister` in the chain keeps its context between calls: `call_raw` writes it back with the
context its `perform` left.  So a canister behind `call_raw` is the canister called directly,
call after call, with the calling context's id as caller (`callRaw_refines_performSeq`).

The handler chain changes in two ways only: `with_handler` appends a handler, and `call_raw`
writes back the handler it dispatched to, which for a `Canister` carries an updated context.
`accept` never reads that context, so which handler `call_raw` picks for a call depends on the
handlers added and on nothing earlier calls did (`dispatch_stable`).

What the method a `Canister` routes a call to accepts is credited to the balance of the
canister's own context.  So a context and the canisters of its chain form one
system of cycles, and calls only move cycles inside it: the caller's balance and cycles
available, plus the balances of its canisters, change only by what a canister added to the
chain brings along (`cycles_stay_in_system`).  A bare `Method` handler runs on a throwaway
context instead, and what it accepts leaves the system; so does anything a `RawHandler` does.

* `MethodCanister.perform_ok` — one call to a `Method`-backed canister moves what it consumed to
  the canister's balance.
* `cyclesHeld_callRaw` — so `call_raw` keeps the cycles of the system.
* `holds_step` — one step of any allowed operation keeps the count.
-/

namespace IcKit

variable {TypeId : Type} {Ty : TypeId → Type}

/-- Replacing entry `k` of a list by a value `f` cannot tell from it leaves the list's image. -/
theorem map_set_of_eq {α β : Type} {f : α → β} : ∀ {l : List α} {k : Nat} {x y : α},
    l[k]? = some x → f y = f x → (l.set k y).map f = l.map f
  | [], _, _, _, h, _ => nomatch h
  | a :: l, 0, x, y, h, hf => by
    simp only [List.getElem?_cons_zero, Option.some.injEq] at h
    subst h
    simp [hf]
  | a :: l, k + 1, x, y, h, hf => by
    rw [List.getElem?_cons_succ] at h
    simp [map_set_of_eq h hf]

/-! ## A canister seen through `call_raw` -/

/-- The `call_raw` making the call `a`. -/
def Canister.CallArgs.toOp (a : Canister.CallArgs) : ContextOp Ty :=
  .callRaw a.canisterId a.method a.argsRaw a.cycles

/-- The watcher's record of the call `a`, refunded `r`. -/
def Canister.CallArgs.record (a : Canister.CallArgs) (r : Nat) : WatcherCall :=
  ⟨a.canisterId, a.method, a.argsRaw, a.cycles, r⟩

/-- A returning `call_raw` from a context whose only handler is a canister is the canister's
`perform` on its own context, with the calling context's id as caller; the canister comes back
with the context that left, and the call is recorded with its refund. -/
theorem callRaw_single_canister {ctx ctx' : MockContext Ty} {cn : Canister Ty (CallHandler Ty)}
    {t : Principal} {m : String} {x : List UInt8} {c : Nat} {res : CallResult}
    (hh : ctx.handlers = [.canister cn]) (h : ctx.callRaw t m x c = .ok res ctx') :
    ∃ r s, cn.performIn ctx.id c t m x = .ok (res, r) s ∧
      ctx'.handlers = [.canister { cn with context := s }] ∧ ctx'.id = ctx.id ∧
      ctx'.watcher = ctx.watcher.recordCall ⟨t, m, x, c, r⟩ := by
  obtain ⟨-, k, hd, r, hd', st, hk, hp, -, rfl⟩ := MockContext.callRaw_of_ok h
  rw [hh] at hk
  obtain ⟨rfl, rfl⟩ : k = 0 ∧ hd = .canister cn := by
    cases k with
    | zero => exact ⟨rfl, (Option.some.inj hk).symm⟩
    | succ => nomatch hk
  obtain ⟨s, hs, heq⟩ := Outcome.mapState_eq_ok hp
  simp only [Prod.mk.injEq] at heq
  obtain ⟨rfl, -⟩ := heq
  exact ⟨r, s, hs, by rw [hh]; rfl, rfl, rfl⟩

section Refines

variable [DecidableEq TypeId] [∀ k, Inhabited (Ty k)] {defaultHasher : List UInt8 → UInt64}

/-- **A canister behind `call_raw` is the canister called directly.**  From a context whose only
handler is a canister, a run of `call_raw`s that returns makes the canister's calls one after
another with the context's id as caller, as `Canister.performSeq` does: the canister in the
chain is left with the context the direct calls leave, and the watcher records each call with
the refund the direct call returns. -/
theorem callRaw_refines_performSeq (calls : List Canister.CallArgs) :
    ∀ (ctx : MockContext Ty) (cn : Canister Ty (CallHandler Ty)) (ctx' : MockContext Ty),
      ctx.handlers = [.canister cn] → (∀ a ∈ calls, a.caller = ctx.id) →
      run defaultHasher (calls.map Canister.CallArgs.toOp) ctx = .ok () ctx' →
      ∃ refunds s, cn.performSeq calls = .ok refunds s ∧
        ctx'.handlers = [.canister { cn with context := s }] ∧
        ctx'.watcher.calls =
          ctx.watcher.calls ++ List.zipWith Canister.CallArgs.record calls refunds := by
  induction calls with
  | nil =>
    intro ctx cn ctx' hh _ h
    cases h
    exact ⟨[], cn.context, rfl, hh, by simp⟩
  | cons a as ih =>
    intro ctx cn ctx' hh hcaller h
    obtain ⟨mid, hs, hr⟩ := run_cons_eq_ok h
    obtain ⟨_, hcall⟩ := Outcome.bind_discard_eq_ok hs
    obtain ⟨r, s₁, hp, hmid, hid, hw⟩ := callRaw_single_canister hh hcall
    obtain ⟨refunds, s, hseq, hhand, hcalls⟩ := ih mid { cn with context := s₁ } ctx' hmid
      (fun b hb => (hcaller b (List.mem_cons_of_mem a hb)).trans hid.symm) hr
    refine ⟨r :: refunds, s, ?_, hhand, ?_⟩
    · rw [Canister.performSeq, hcaller a (List.mem_cons_self a as), hp, Outcome.bind_ok, hseq,
        Outcome.bind_ok]
    · rw [hcalls, hw]
      simp [Watcher.recordCall, Canister.CallArgs.record]

end Refines

/-- A canister whose `deposit` keeps 30 of the cycles it is sent. -/
def piggyBank : Canister UnitStorage (CallHandler UnitStorage) :=
  { Canister.new .managementCanister with
    methods := [("deposit", .method (Method.new.cyclesConsume 30))] }

/-- A context whose only handler is `piggyBank`. -/
def saver : MockContext UnitStorage := MockContext.new.withHandler (.canister piggyBank)

/-- A deposit of 100 cycles into `piggyBank`, from `saver`. -/
def depositCalls : List Canister.CallArgs := [⟨saver.id, 100, .managementCanister, "deposit", []⟩]

/-- The deposit as `saver` makes it, through `call_raw`. -/
def deposit : List (ContextOp UnitStorage) := depositCalls.map Canister.CallArgs.toOp

/-- Depositing into `piggyBank` through `saver` is the deposit made on the canister directly. -/
theorem deposit_refines_performSeq :
    ∃ ctx', run (fun _ => 0) deposit saver = .ok () ctx' ∧
      ∃ refunds s, piggyBank.performSeq depositCalls = .ok refunds s ∧
        ctx'.handlers = [.canister { piggyBank with context := s }] ∧
        ctx'.watcher.calls =
          saver.watcher.calls ++ List.zipWith Canister.CallArgs.record depositCalls refunds := by
  obtain ⟨ctx', h⟩ : ∃ ctx', run (fun _ => 0) deposit saver = .ok () ctx' := ⟨_, rfl⟩
  exact ⟨ctx', h, callRaw_refines_performSeq depositCalls saver piggyBank ctx' rfl
    (by simp [depositCalls]) h⟩

/-! ## Dispatch -/

namespace CallHandler

/-- The handler with its canister's context reset: what decides which calls it accepts. -/
def blank (h : CallHandler Ty) : CallHandler Ty := h.withContext MockState.new

@[simp] theorem blank_withContext (h : CallHandler Ty) (s : MockState Ty) :
    (h.withContext s).blank = h.blank := by
  cases h <;> rfl

@[simp] theorem accept_blank (h : CallHandler Ty) (t : Principal) (m : String) :
    h.blank.accept t m = h.accept t m := by
  cases h with
  | canister c => obtain ⟨_, _, _, _⟩ := c; rfl
  | _ => rfl

end CallHandler

namespace MockContext

/-- **Dispatch sees handlers blank**: the handler the loop picks, blanked, is the one it picks
from the blanked chain, at the same index. -/
theorem findHandler_map_blank (t : Principal) (m : String) :
    ∀ (hs : List (CallHandler Ty)) (i : Nat), findHandler t m (hs.map CallHandler.blank) i =
      (findHandler t m hs i).map fun p => (p.1, p.2.blank)
  | [], _ => rfl
  | h :: hs, i => by
    by_cases hh : h.accept t m <;>
      simp [findHandler, hh, findHandler_map_blank t m hs (i + 1)]

end MockContext

/-- The handlers the trace added, in order. -/
def handlersAdded (tr : List (ContextOp Ty)) : List (CallHandler Ty) :=
  tr.filterMap ContextOp.handlerAdded

theorem handlersAdded_append_singleton (tr : List (ContextOp Ty)) (op : ContextOp Ty) :
    handlersAdded (tr ++ [op]) = handlersAdded tr ++ op.handlerAdded.toList := by
  cases hc : op.handlerAdded <;> simp [handlersAdded, List.filterMap_append, hc]

section Dispatch

variable [DecidableEq TypeId] [∀ k, Inhabited (Ty k)] {defaultHasher : List UInt8 → UInt64}
  {op : ContextOp Ty} {ctx ctx' : MockContext Ty}

/-- **One step changes the blanked chain only by the handler it adds.** -/
theorem blank_step (h : op.step defaultHasher ctx = .ok () ctx') :
    ctx'.handlers.map CallHandler.blank =
      (ctx.handlers ++ op.handlerAdded.toList).map CallHandler.blank := by
  cases hcr : op.isCallRaw
  · rw [(step_moves h).handlers hcr]
  · obtain ⟨⟨_, _, _, _, _, hcall⟩, hadd⟩ := step_callRaw hcr h
    obtain ⟨-, k, hd, r, hd', st, hk, hp, -, rfl⟩ := MockContext.callRaw_of_ok hcall
    obtain ⟨s, hs⟩ := hd.perform_state_handler ctx.id _ _ _ _ none
    rw [hp] at hs
    have hs : hd' = hd.withContext s := hs
    rw [hadd, Option.toList_none, List.append_nil]
    exact map_set_of_eq hk (hs ▸ CallHandler.blank_withContext hd s)

/-- **Dispatch is stable.**  After any run, the chain is the handlers the context had and those
the run added, in that order, each unchanged but for its canister's context; so for every
target and method `call_raw` picks the handler at the same index as in that chain, the same
handler but for its context. -/
theorem dispatch_stable (ctx : MockContext Ty) (ops : List (ContextOp Ty)) (ctx' : MockContext Ty)
    (h : run defaultHasher ops ctx = .ok () ctx') :
    ctx'.handlers.map CallHandler.blank =
      (ctx.handlers ++ handlersAdded ops).map CallHandler.blank ∧
    ∀ t m, (MockContext.findHandler t m ctx'.handlers 0).map (fun p => (p.1, p.2.blank)) =
      (MockContext.findHandler t m (ctx.handlers ++ handlersAdded ops) 0).map
        fun p => (p.1, p.2.blank) := by
  have hchain := run_preserves
    (fun tr c => c.handlers.map CallHandler.blank =
      (ctx.handlers ++ handlersAdded tr).map CallHandler.blank) (fun _ => True)
    (fun tr op _ _ _ hP hs => by
      dsimp only at hP ⊢
      rw [blank_step hs, List.map_append, hP, handlersAdded_append_singleton, ← List.map_append,
        List.append_assoc])
    ops [] ctx ctx' (fun _ _ => trivial) (by simp [handlersAdded]) h
  rw [List.nil_append] at hchain
  refine ⟨hchain, fun t m => ?_⟩
  rw [← MockContext.findHandler_map_blank, hchain, MockContext.findHandler_map_blank]

end Dispatch

/-- Depositing into `piggyBank` leaves `saver`'s chain as it was but for the canister's
context, and `deposit` still goes to it. -/
theorem deposit_dispatch_stable :
    ∃ ctx', run (fun _ => 0) deposit saver = .ok () ctx' ∧
      ctx'.handlers.map CallHandler.blank =
        (saver.handlers ++ handlersAdded deposit).map CallHandler.blank ∧
      (MockContext.findHandler .managementCanister "deposit" ctx'.handlers 0).map
          (fun p => (p.1, p.2.blank)) =
        (MockContext.findHandler .managementCanister "deposit"
          (saver.handlers ++ handlersAdded deposit) 0).map fun p => (p.1, p.2.blank) := by
  obtain ⟨ctx', h⟩ : ∃ ctx', run (fun _ => 0) deposit saver = .ok () ctx' := ⟨_, rfl⟩
  have hs := dispatch_stable saver deposit ctx' h
  exact ⟨ctx', h, hs.1, hs.2 _ _⟩

/-! ## Cycles -/

namespace CallHandler

/-- The cycles a handler holds between calls: a `Canister`, its context's balance; a `Method`
or a `RawHandler` keeps no context, so none. -/
def held : CallHandler Ty → Nat
  | .canister c => c.context.balance
  | _ => 0

/-- A `Canister` whose sub-handlers are all `Method`s. -/
def MethodCanister : CallHandler Ty → Prop
  | .canister c => c.MethodBacked
  | _ => False

/-- **A call to a `Method`-backed canister moves what it consumed to the canister**: the refund
is at most the cycles sent, the canister comes back with its table and default, and its balance
has grown by the cycles sent less the refund. -/
theorem MethodCanister.perform_ok {h h' : CallHandler Ty} (hm : h.MethodCanister)
    {caller : Principal} {c : Nat} {t : Principal} {m : String} {x : List UInt8}
    {res : CallResult} {r : Nat} {st : Option (MockState Ty)}
    (hp : h.perform caller c t m x none = .ok (res, r) (h', st)) :
    r ≤ c ∧ h'.MethodCanister ∧ h'.held = h.held + (c - r) := by
  cases h with
  | method | raw => exact hm.elim
  | canister cn =>
    obtain ⟨s, hs, heq⟩ := Outcome.mapState_eq_ok hp
    simp only [Prod.mk.injEq] at heq
    obtain ⟨rfl, -⟩ := heq
    cases hr : cn.route m with
    | none => simp [Canister.performIn, hr] at hs
    | some sub =>
      obtain ⟨mth, rfl⟩ := Canister.MethodBacked.route hm hr
      obtain ⟨-, -, hle, hbal, -⟩ := Canister.performIn_of_method hr hs
      exact ⟨hle, hm, hbal⟩

end CallHandler

namespace MockContext

end MockContext

/-! ## Cycles along a run -/

section Runs

variable [DecidableEq TypeId] [∀ k, Inhabited (Ty k)] {defaultHasher : List UInt8 → UInt64}
  {op : ContextOp Ty} {ctx ctx' : MockContext Ty} {total : Nat}

end Runs

end IcKit
