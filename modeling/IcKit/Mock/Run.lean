import IcKit.Mock.CallRaw

/-!
# Mock/Run — runs of context operations

A test drives its `MockContext` through a sequence of operations: those of the `Context` trait,
the inherent `&self` methods and the builders.  `ContextOp` names them all, with what each
depends on (the clock reading, the outcome of the Candid encoding, the value written);
`ContextOp.step` performs one on the whole context and `run` performs a list of them, stopping at
the first panic.  The values the operations return are not kept: the lemmas of `Mock/Context`
and `Mock/CallRaw` say what each returns.

* `run_preserves` — a property of the trace so far and the context, kept by every step, holds
  after every run.  Each invariant over runs of `Mock/Storage`, `Mock/Trace` and
  `Mock/Conservation` is this induction, given its step lemma.
-/

namespace IcKit

variable {TypeId : Type} {Ty : TypeId → Type}

/-! ## Operations -/

/-- An operation on a `MockContext`.  `getMut k write` is `get_mut::<T>()` followed by `write`
through the returned reference; `stableRestore` keeps no value, so its target type is left out. -/
inductive ContextOp (Ty : TypeId → Type) where
  | trap (message : String)
  | print (s : String)
  | id
  | time (now : Nat)
  | balance
  | caller
  | msgCyclesAvailable
  | msgCyclesAccept (cycles : Nat)
  | msgCyclesRefunded
  | store (k : TypeId) (data : Ty k)
  | get (k : TypeId)
  | getMut (k : TypeId) (write : Ty k → Ty k)
  | delete (k : TypeId)
  | stableStore (encoded : Except String (List UInt8))
  | stableRestore
  | callRaw (id : Principal) (method : String) (argsRaw : List UInt8) (cycles : Nat)
  | setCertifiedData (data : List UInt8)
  | dataCertificate
  | watch
  | callStateReset
  | clearStorage
  | updateBalance (cycles : Nat)
  | updateMsgCycles (cycles : Nat)
  | updateCaller (caller : Principal)
  | getCertifiedData
  | withId (id : Principal)
  | withBalance (cycles : Nat)
  | withCaller (caller : Principal)
  | withMsgCycles (cycles : Nat)
  | withData (k : TypeId) (data : Ty k)
  | withStable (encoded : Except String (List UInt8))
  | withCertifiedData (data : List UInt8)
  | withHandler (handler : CallHandler Ty)

namespace ContextOp

/-- `watch()`. -/
def isWatch : ContextOp Ty → Bool
  | .watch => true
  | _ => false

/-- `call_raw(..)`. -/
def isCallRaw : ContextOp Ty → Bool
  | .callRaw .. => true
  | _ => false

/-- `call_state_reset()`. -/
def isCallStateReset : ContextOp Ty → Bool
  | .callStateReset => true
  | _ => false

end ContextOp

/-! ## Lifting the field operations -/

namespace MockContext

/-- An operation on the fields, performed on the whole context: the handler chain is kept. -/
def lift {α : Type} (f : MockState Ty → Outcome (MockState Ty) α) (ctx : MockContext Ty) :
    Outcome (MockContext Ty) Unit :=
  match f ctx.toMockState with
  | .ok _ s => .ok () { ctx with toMockState := s }
  | .error p s => .error p { ctx with toMockState := s }

/-- A setter or builder on the fields, performed on the whole context. -/
def modify (f : MockState Ty → MockState Ty) (ctx : MockContext Ty) : MockContext Ty :=
  { ctx with toMockState := f ctx.toMockState }

theorem lift_eq_ok {α : Type} {f : MockState Ty → Outcome (MockState Ty) α}
    {ctx ctx' : MockContext Ty} (h : ctx.lift f = .ok () ctx') :
    ∃ a s, f ctx.toMockState = .ok a s ∧ ctx' = { ctx with toMockState := s } := by
  unfold lift at h
  split at h
  · cases h
    exact ⟨_, _, ‹_›, rfl⟩
  · cases h

end MockContext

/-! ## Steps and runs -/

variable [DecidableEq TypeId] [∀ k, Inhabited (Ty k)]

namespace ContextOp

/-- One operation on the context, `defaultHasher` being the hasher `sign` uses. -/
def step (defaultHasher : List UInt8 → UInt64) : ContextOp Ty → MockContext Ty →
    Outcome (MockContext Ty) Unit
  | .trap message => MockContext.lift (Context.trap message)
  | .print s => MockContext.lift (Context.print s)
  | .id => MockContext.lift Context.id
  | .time now => MockContext.lift (Context.time now)
  | .balance => MockContext.lift Context.balance
  | .caller => MockContext.lift Context.caller
  | .msgCyclesAvailable => MockContext.lift Context.msgCyclesAvailable
  | .msgCyclesAccept cycles => MockContext.lift (Context.msgCyclesAccept cycles)
  | .msgCyclesRefunded => MockContext.lift Context.msgCyclesRefunded
  | .store k data => MockContext.lift (Context.store k data)
  | .get k => MockContext.lift (Context.get k)
  | .getMut k write => MockContext.lift (Context.getMut k write)
  | .delete k => MockContext.lift (Context.delete k)
  | .stableStore encoded => MockContext.lift (Context.stableStore encoded)
  | .stableRestore =>
    MockContext.lift (Context.stableRestore fun _ => (.ok () : Except String Unit))
  | .callRaw canisterId method argsRaw cycles => fun ctx =>
    Outcome.bind (ctx.callRaw canisterId method argsRaw cycles) fun _ ctx => .ok () ctx
  | .setCertifiedData data => MockContext.lift (Context.setCertifiedData defaultHasher data)
  | .dataCertificate => MockContext.lift Context.dataCertificate
  | .watch => fun ctx => .ok () (ctx.modify MockState.watch)
  | .callStateReset => fun ctx => .ok () (ctx.modify MockState.callStateReset)
  | .clearStorage => fun ctx => .ok () (ctx.modify MockState.clearStorage)
  | .updateBalance cycles => fun ctx => .ok () (ctx.modify (MockState.updateBalance cycles))
  | .updateMsgCycles cycles => fun ctx => .ok () (ctx.modify (MockState.updateMsgCycles cycles))
  | .updateCaller p => fun ctx => .ok () (ctx.modify (MockState.updateCaller p))
  | .getCertifiedData => fun ctx => .ok () ctx
  | .withId canisterId => fun ctx => .ok () (ctx.modify (MockState.withId canisterId))
  | .withBalance cycles => fun ctx => .ok () (ctx.modify (MockState.withBalance cycles))
  | .withCaller p => fun ctx => .ok () (ctx.modify (MockState.withCaller p))
  | .withMsgCycles cycles => fun ctx => .ok () (ctx.modify (MockState.withMsgCycles cycles))
  | .withData k data => fun ctx => .ok () (ctx.modify (MockState.withData k data))
  | .withStable encoded => MockContext.lift (MockState.withStable encoded)
  | .withCertifiedData data => MockContext.lift (MockState.withCertifiedData defaultHasher data)
  | .withHandler handler => fun ctx => .ok () (ctx.withHandler handler)

end ContextOp

/-- The operations one after another, each on the context the last one left; the first panic
ends the run, in the context it left. -/
def run (defaultHasher : List UInt8 → UInt64) :
    List (ContextOp Ty) → MockContext Ty → Outcome (MockContext Ty) Unit
  | [], ctx => .ok () ctx
  | op :: ops, ctx => Outcome.bind (op.step defaultHasher ctx) fun _ ctx => run defaultHasher ops ctx

variable {defaultHasher : List UInt8 → UInt64}

theorem run_cons_eq_ok {op : ContextOp Ty} {ops : List (ContextOp Ty)} {ctx ctx' : MockContext Ty}
    (h : run defaultHasher (op :: ops) ctx = .ok () ctx') :
    ∃ mid, op.step defaultHasher ctx = .ok () mid ∧ run defaultHasher ops mid = .ok () ctx' := by
  obtain ⟨_, mid, hs, hr⟩ := Outcome.bind_eq_ok h
  exact ⟨mid, hs, hr⟩

/-- **Run induction.**  If every step allowed by `Q` keeps `P`, of the trace so far and the
context, then every run of allowed steps does. -/
theorem run_preserves (P : List (ContextOp Ty) → MockContext Ty → Prop) (Q : ContextOp Ty → Prop)
    (hstep : ∀ tr op ctx ctx', Q op → P tr ctx → op.step defaultHasher ctx = .ok () ctx' →
      P (tr ++ [op]) ctx') :
    ∀ (ops tr : List (ContextOp Ty)) (ctx ctx' : MockContext Ty), (∀ op ∈ ops, Q op) → P tr ctx →
      run defaultHasher ops ctx = .ok () ctx' → P (tr ++ ops) ctx'
  | [], tr, ctx, ctx', _, hP, h => by
    cases h
    rwa [List.append_nil]
  | op :: ops, tr, ctx, ctx', hQ, hP, h => by
    obtain ⟨mid, hs, hr⟩ := run_cons_eq_ok h
    have := run_preserves P Q hstep ops (tr ++ [op]) mid ctx'
      (fun o ho => hQ o (List.mem_cons_of_mem _ ho)) (hstep tr op ctx mid (hQ op (by simp)) hP hs) hr
    rwa [List.append_assoc, List.singleton_append] at this

end IcKit
