import IcKit.Handler.CanisterSpec

/-!
# Mock/CallRaw — outbound calls: first-match dispatch over the handler chain

`MockContext` is a `MockState` together with its handler chain.  `call_raw` reserves the cycles,
enters reply-callback mode, walks the chain for the first handler accepting the call, lets it
`perform` with no context supplied, credits the refund and records the call.

* `findHandler_eq_some_of_least` / `findHandler_eq_none_iff` — the loop stops at the least
  accepting index, and finds nothing exactly when nobody accepts.
* `perform_state_handler` — a handler's `perform` changes nothing of the handler but a
  `Canister`'s own context.
* `callRaw_first_match` — what `call_raw` does to the whole context, field by field.
* `callRaw_method_overflow_bound` — a `Method` runs on a throwaway context whose balance is
  `10^14`, so what it accepts overflows there once the call carries more than
  `u64::MAX - 10^14` cycles, whatever the caller's balance.
-/

namespace IcKit

variable {TypeId : Type} {Ty : TypeId → Type}

/-- `MockContext`: the context's fields and the chain of handlers its outbound calls walk. -/
structure MockContext (Ty : TypeId → Type) extends MockState Ty where
  handlers : List (CallHandler Ty)

namespace MockContext

/-- `MockContext::new()`: no handlers. -/
def new : MockContext Ty := { MockState.new with handlers := [] }

/-- `with_handler(handler)`: appended, so consulted after every earlier one. -/
def withHandler (handler : CallHandler Ty) (ctx : MockContext Ty) : MockContext Ty :=
  { ctx with handlers := ctx.handlers ++ [handler] }

/-- `with_accept_cycles_handler(cycles)`. -/
def withAcceptCyclesHandler (cycles : Nat) (ctx : MockContext Ty) : MockContext Ty :=
  ctx.withHandler (.method (Method.new.cyclesConsume cycles))

/-- `with_refund_cycles_handler(cycles)`. -/
def withRefundCyclesHandler (cycles : Nat) (ctx : MockContext Ty) : MockContext Ty :=
  ctx.withHandler (.method (Method.new.cyclesRefund cycles))

/-- `with_constant_return_handler(value)`, given the encoding of `(value,)`: a fresh method has
no response yet, so `Method::response` cannot panic here. -/
def withConstantReturnHandler (encoded : List UInt8) (ctx : MockContext Ty) : MockContext Ty :=
  ctx.withHandler (.method { Method.new with response := some encoded })

/-- The `loop` of `call_raw`, at index `i` of the chain: the first handler from there on that
accepts the call, with its index. -/
def findHandler (canisterId : Principal) (method : String) :
    List (CallHandler Ty) → Nat → Option (Nat × CallHandler Ty)
  | [], _ => none
  | h :: hs, i =>
    if h.accept canisterId method then some (i, h) else findHandler canisterId method hs (i + 1)

/-- `call_raw(id, method, args_raw, cycles)`: the call's result, which the returned future
yields. -/
def callRaw (id : Principal) (method : String) (argsRaw : List UInt8) (cycles : Nat)
    (ctx : MockContext Ty) : Outcome (MockContext Ty) CallResult :=
  if ctx.balance < cycles then .error (.insufficientCycles id cycles ctx.balance) ctx
  else
    let ctx := { ctx with balance := ctx.balance - cycles, isReplyCallbackMode := true }
    match findHandler id method ctx.handlers 0 with
    | none => .error .noHandlerFound ctx
    | some (i, h) =>
      match h.perform ctx.id cycles id method argsRaw none with
      | .error p (h', _) => .error p { ctx with handlers := ctx.handlers.set i h' }
      | .ok (res, refunded) (h', _) =>
        let ctx := { ctx with handlers := ctx.handlers.set i h', cyclesRefunded := refunded }
        if ctx.balance + refunded ≤ u64Max then
          .ok res { ctx with
            balance := ctx.balance + refunded
            watcher := ctx.watcher.recordCall ⟨id, method, argsRaw, cycles, refunded⟩ }
        else .error .addOverflow ctx

/-! ## The handler loop -/

theorem findHandler_eq_none_iff (t : Principal) (m : String) :
    ∀ (hs : List (CallHandler Ty)) (i : Nat),
      findHandler t m hs i = none ↔ ∀ h ∈ hs, h.accept t m = false
  | [], _ => by simp [findHandler]
  | h :: hs, i => by
    by_cases hh : h.accept t m <;> simp [findHandler, hh, findHandler_eq_none_iff t m hs]

/-- **The loop stops at the least accepting index**: handlers past it are never consulted. -/
theorem findHandler_eq_some_of_least (t : Principal) (m : String) :
    ∀ (hs : List (CallHandler Ty)) (i k : Nat) (h : CallHandler Ty),
      hs[k]? = some h → h.accept t m = true →
      (∀ j < k, ∀ h', hs[j]? = some h' → h'.accept t m = false) →
      findHandler t m hs i = some (i + k, h)
  | [], _, _, _, hk, _, _ => by simp at hk
  | g :: hs, i, 0, h, hk, hacc, _ => by
    simp only [List.getElem?_cons_zero, Option.some.injEq] at hk
    subst hk
    simp [findHandler, hacc]
  | g :: hs, i, k + 1, h, hk, hacc, hlt => by
    have hg : g.accept t m = false := hlt 0 (by omega) g (by simp)
    rw [List.getElem?_cons_succ] at hk
    rw [findHandler, if_neg (by simp [hg]),
      findHandler_eq_some_of_least t m hs (i + 1) k h hk hacc
        fun j hj h' hj' => hlt (j + 1) (by omega) h' (by simpa using hj')]
    simp only [Option.some.injEq, Prod.mk.injEq, and_true]
    omega

/-- What the loop found: an accepting handler, at its index in the chain. -/
theorem findHandler_of_eq_some (t : Principal) (m : String) :
    ∀ (hs : List (CallHandler Ty)) (i j : Nat) (h : CallHandler Ty),
      findHandler t m hs i = some (j, h) → ∃ k, j = i + k ∧ hs[k]? = some h ∧ h.accept t m = true
  | [], _, _, _, hf => by simp [findHandler] at hf
  | g :: hs, i, j, h, hf => by
    unfold findHandler at hf
    split at hf
    · cases hf
      exact ⟨0, rfl, by simp, ‹_›⟩
    · obtain ⟨k, rfl, hk, hacc⟩ := findHandler_of_eq_some t m hs (i + 1) j h hf
      exact ⟨k + 1, by omega, by simpa using hk, hacc⟩

end MockContext

/-! ## What `perform` leaves of the handler -/

namespace CallHandler

/-- The handler with a `Canister`'s context replaced; a `Method` or `RawHandler` has none. -/
def withContext : CallHandler Ty → MockState Ty → CallHandler Ty
  | .canister c, s => .canister { c with context := s }
  | h, _ => h

/-- `perform` changes nothing of the handler but a `Canister`'s own context. -/
theorem perform_state_handler (h : CallHandler Ty) (caller : Principal) (cycles : Nat)
    (t : Principal) (m : String) (x : List UInt8) (ctx : Option (MockState Ty)) :
    ∃ s, (h.perform caller cycles t m x ctx).state.1 = h.withContext s := by
  cases h with
  | method => exact ⟨MockState.new, by simp [perform, withContext]⟩
  | raw => exact ⟨MockState.new, by simp [perform, withContext]⟩
  | canister c =>
    cases ctx with
    | some ctx => exact ⟨c.context, rfl⟩
    | none => exact ⟨(c.performIn caller cycles t m x).state, by simp [perform, withContext]⟩

end CallHandler

/-! ## `call_raw`, field by field -/

namespace MockContext

/-- The context once `call_raw` has reserved the cycles and entered reply-callback mode. -/
def reserve (cycles : Nat) (ctx : MockContext Ty) : MockContext Ty :=
  { ctx with balance := ctx.balance - cycles, isReplyCallbackMode := true }

@[simp] theorem reserve_handlers (cycles : Nat) (ctx : MockContext Ty) :
    (ctx.reserve cycles).handlers = ctx.handlers := rfl

@[simp] theorem reserve_id (cycles : Nat) (ctx : MockContext Ty) :
    (ctx.reserve cycles).id = ctx.id := rfl

/-- With enough balance, `call_raw` is the dispatch on the reserved context. -/
theorem callRaw_of_le {ctx : MockContext Ty} {c : Nat} (t : Principal) (m : String)
    (x : List UInt8) (hc : c ≤ ctx.balance) :
    ctx.callRaw t m x c =
      match findHandler t m ctx.handlers 0 with
      | none => .error .noHandlerFound (ctx.reserve c)
      | some (i, h) =>
        match h.perform ctx.id c t m x none with
        | .error p (h', _) => .error p { ctx.reserve c with handlers := ctx.handlers.set i h' }
        | .ok (res, refunded) (h', _) =>
          if ctx.balance - c + refunded ≤ u64Max then
            .ok res { ctx.reserve c with
              handlers := ctx.handlers.set i h'
              cyclesRefunded := refunded
              balance := ctx.balance - c + refunded
              watcher := ctx.watcher.recordCall ⟨t, m, x, c, refunded⟩ }
          else .error .addOverflow
            { ctx.reserve c with handlers := ctx.handlers.set i h', cyclesRefunded := refunded } := by
  rw [callRaw, if_neg (by omega)]
  rfl

/-- **`call_raw` field by field.**  Too few cycles: a panic, nothing touched.  Otherwise the
cycles are reserved and reply-callback mode entered; with no accepting handler, the "No
handler found" panic; else the least accepting handler `k` performs, with the context's own id
and no context supplied, and its panic is `call_raw`'s.  Its refund `r` is credited (a `u64`
addition, which can overflow only if `r` exceeds the cycles sent, and a handler whose every leaf
is a `Method` never refunds more than it was sent), the call recorded, and
handler `k` replaced by its post-call self — the same handler, but for a `Canister`'s own
context.  No other field changes. -/
theorem callRaw_first_match (ctx : MockContext Ty) (t : Principal) (m : String)
    (x : List UInt8) (c : Nat) :
    (ctx.balance < c → ctx.callRaw t m x c = .error (.insufficientCycles t c ctx.balance) ctx) ∧
    (c ≤ ctx.balance → (∀ h ∈ ctx.handlers, h.accept t m = false) →
      ctx.callRaw t m x c = .error .noHandlerFound (ctx.reserve c)) ∧
    (∀ k h, c ≤ ctx.balance → ctx.handlers[k]? = some h → h.accept t m = true →
      (∀ j < k, ∀ h', ctx.handlers[j]? = some h' → h'.accept t m = false) →
      (∀ p h' c', h.perform ctx.id c t m x none = .error p (h', c') →
        ctx.callRaw t m x c = .error p { ctx.reserve c with handlers := ctx.handlers.set k h' }) ∧
      (∀ res r h' c', h.perform ctx.id c t m x none = .ok (res, r) (h', c') →
        (∃ s, h' = h.withContext s) ∧ (h.MethodBacked → r ≤ c) ∧
        (ctx.balance - c + r ≤ u64Max →
          ctx.callRaw t m x c = .ok res { ctx with
            balance := ctx.balance - c + r
            cyclesRefunded := r
            isReplyCallbackMode := true
            watcher := ctx.watcher.recordCall ⟨t, m, x, c, r⟩
            handlers := ctx.handlers.set k h' }) ∧
        (u64Max < ctx.balance - c + r →
          ctx.callRaw t m x c = .error .addOverflow
            { ctx.reserve c with handlers := ctx.handlers.set k h', cyclesRefunded := r }))) := by
  refine ⟨fun hc => by rw [callRaw, if_pos hc], fun hc hnone => ?_,
    fun k h hc hk hacc hlt => ?_⟩
  · rw [callRaw_of_le t m x hc, (findHandler_eq_none_iff t m _ 0).2 hnone]
  · have hfind := findHandler_eq_some_of_least t m ctx.handlers 0 k h hk hacc hlt
    rw [Nat.zero_add] at hfind
    rw [callRaw_of_le t m x hc, hfind]
    refine ⟨fun p h' c' hp => by simp only [hp],
      fun res r h' c' hp => ⟨?_, fun hm => CallHandler.perform_refund_le hm hp, fun hr => ?_,
        fun hr => ?_⟩⟩
    · have hs := h.perform_state_handler ctx.id c t m x none
      rwa [hp] at hs
    · simp only [hp, if_pos hr]
      rfl
    · simp only [hp, if_neg (Nat.not_le.2 hr)]

/-- **A returning `call_raw`**: the cycles were there, handler `k` of the chain accepted and
returned a refund `r` that the balance could take; the context is the reserved one with `r`
credited, the call recorded and handler `k` replaced by its post-call self. -/
theorem callRaw_of_ok {ctx ctx' : MockContext Ty} {t : Principal} {m : String} {x : List UInt8}
    {c : Nat} {res : CallResult} (h : ctx.callRaw t m x c = .ok res ctx') :
    c ≤ ctx.balance ∧ ∃ k hd r hd' st, ctx.handlers[k]? = some hd ∧
      hd.perform ctx.id c t m x none = .ok (res, r) (hd', st) ∧ ctx.balance - c + r ≤ u64Max ∧
      ctx' = { ctx with
        balance := ctx.balance - c + r
        cyclesRefunded := r
        isReplyCallbackMode := true
        watcher := ctx.watcher.recordCall ⟨t, m, x, c, r⟩
        handlers := ctx.handlers.set k hd' } := by
  by_cases hc : ctx.balance < c
  · rw [callRaw, if_pos hc] at h
    cases h
  refine ⟨by omega, ?_⟩
  rw [callRaw_of_le t m x (by omega)] at h
  cases hf : findHandler t m ctx.handlers 0 with
  | none => rw [hf] at h; cases h
  | some p =>
    obtain ⟨j, hd⟩ := p
    obtain ⟨k, rfl, hk, -⟩ := findHandler_of_eq_some t m ctx.handlers 0 j hd hf
    rw [hf] at h
    dsimp only at h
    rcases hp : hd.perform ctx.id c t m x none with ⟨⟨res', r⟩, hd', st'⟩ | ⟨p, st⟩
    · rw [hp] at h
      dsimp only at h
      split at h <;> cases h
      exact ⟨k, hd, r, hd', st', hk, by rw [hp], ‹_›, by rw [Nat.zero_add]; rfl⟩
    · rw [hp] at h
      cases h

/-- **A panicking `call_raw`**: too few cycles, no accepting handler, or the handler `k` it
dispatched to either panicked or returned a refund the balance could not take. -/
theorem callRaw_of_error {ctx s : MockContext Ty} {t : Principal} {m : String} {x : List UInt8}
    {c : Nat} {p : Panic} (h : ctx.callRaw t m x c = .error p s) :
    ctx.balance < c ∨ p = .noHandlerFound ∨
      ∃ (k : Nat) (hd : CallHandler Ty), ctx.handlers[k]? = some hd ∧
      ((∃ st, hd.perform ctx.id c t m x none = .error p st) ∨
        ∃ res r st, hd.perform ctx.id c t m x none = .ok (res, r) st ∧
          u64Max < ctx.balance - c + r ∧ p = .addOverflow) := by
  by_cases hc : ctx.balance < c
  · exact .inl hc
  rw [callRaw_of_le t m x (by omega)] at h
  rcases hf : findHandler t m ctx.handlers 0 with _ | ⟨j, hd⟩
  · rw [hf] at h
    cases h
    exact .inr (.inl rfl)
  obtain ⟨k, rfl, hk, -⟩ := findHandler_of_eq_some t m ctx.handlers 0 j hd hf
  rw [hf] at h
  dsimp only at h
  refine .inr (.inr ⟨k, hd, hk, ?_⟩)
  rcases hp : hd.perform ctx.id c t m x none with ⟨⟨res, r⟩, st⟩ | ⟨_, st⟩
  · rw [hp] at h
    dsimp only at h
    split at h
    · cases h
    · cases h
      exact .inr ⟨res, r, st, rfl, by omega, rfl⟩
  · rw [hp] at h
    cases h
    exact .inl ⟨st, rfl⟩

/-! ## The throwaway context of a `Method` -/

/-- **A `Method` handler credits what it accepts to a balance of `10^14`**: that of the
throwaway `MockContext::new().with_msg_cycles(c)` it runs on, not the caller's.  From any `u64`
balance `b ≥ c`, a chain of `Method`s never makes `call_raw` overflow while `10^14 + c` is a
`u64`, since the throwaway balance has room for all `c` and the refund is at most `c`.  Past
that bound, a handler that consumes everything overflows in `msg_cycles_accept`, whatever `b`. -/
theorem callRaw_method_overflow_bound (ctx : MockContext Ty) (t : Principal) (m : String)
    (x : List UInt8) (c : Nat) (hb : ctx.balance ≤ u64Max) (hc : c ≤ ctx.balance) :
    ((∀ h ∈ ctx.handlers, ∃ mth, h = .method mth) → 10 ^ 14 + c ≤ u64Max →
      ∀ s, ctx.callRaw t m x c ≠ .error .addOverflow s) ∧
    (ctx.handlers = [.method Method.new.cyclesConsumeAll] → u64Max < 10 ^ 14 + c →
      ctx.callRaw t m x c = .error .addOverflow (ctx.reserve c)) := by
  have hbal : (Method.runContext c (none : Option (MockState Ty))).balance = 10 ^ 14 ∧
      (Method.runContext c (none : Option (MockState Ty))).cycles = c := Method.runContext_none c
  refine ⟨fun hall hroom s hs => ?_, fun hh hover => ?_⟩
  · rcases callRaw_of_error hs with hlt | hp | ⟨k, hd, hk, ⟨st, hp⟩ | ⟨res, r, st, hp, hr, -⟩⟩
    · omega
    · cases hp
    all_goals obtain ⟨mth, rfl⟩ := hall hd (List.getElem?_mem hk)
    · obtain ⟨_, hq, -⟩ := Outcome.mapState_eq_error hp
      exact Method.perform_ne_addOverflow mth c x none (by omega) _ hq
    · obtain ⟨_, hq, -⟩ := Outcome.mapState_eq_ok hp
      have := (Method.perform_ok hq).1
      omega
  · have hfind : findHandler t m ctx.handlers 0 = some (0, .method Method.new.cyclesConsumeAll) := by
      rw [hh]
      rfl
    rw [callRaw_of_le t m x hc, hfind]
    simp only [CallHandler.perform, Method.consumeAll_overflows_past_room x hover,
      Outcome.mapState_error, hh, List.set_cons_zero]
    rw [← hh]
    rfl

/-- A context holding `u64::MAX` cycles whose only handler consumes everything it is sent. -/
def consumingAll : MockContext UnitStorage :=
  { MockContext.new with balance := u64Max, handlers := [.method Method.new.cyclesConsumeAll] }

/-- Sending all `u64::MAX` cycles of `consumingAll`: the caller can afford them, but the call
panics in the callee's `msg_cycles_accept`. -/
theorem callRaw_consumeAll_overflows :
    consumingAll.balance ≤ u64Max ∧ u64Max ≤ consumingAll.balance ∧
    consumingAll.callRaw .managementCanister "deposit_cycles" [] u64Max =
      .error .addOverflow (consumingAll.reserve u64Max) :=
  ⟨Nat.le_refl _, Nat.le_refl _,
    (callRaw_method_overflow_bound consumingAll .managementCanister "deposit_cycles" [] u64Max
      (Nat.le_refl _) (Nat.le_refl _)).2 rfl (by decide)⟩

/-- A `RawHandler` whose closure leaves `u64::MAX` cycles available, whatever it was sent. -/
def refundingEverything : RawHandler UnitStorage :=
  ⟨fun s _ _ _ => .ok (.ok []) (s.updateMsgCycles u64Max)⟩

/-- A context of one cycle whose only handler is `refundingEverything`. -/
def overRefunded : MockContext UnitStorage :=
  { MockContext.new with balance := 1, handlers := [.raw refundingEverything] }

/-- Sending no cycles from `overRefunded`, `perform` refunds `u64::MAX`, and `call_raw` panics
crediting it instead of returning. -/
theorem callRaw_refund_overflows :
    (∃ s, (CallHandler.raw refundingEverything).perform overRefunded.id 0 .managementCanister
        "deposit_cycles" [] none = .ok (.ok [], u64Max) s) ∧
    ∃ s, overRefunded.callRaw .managementCanister "deposit_cycles" [] 0 = .error .addOverflow s :=
  ⟨⟨_, rfl⟩, ⟨_, rfl⟩⟩

end MockContext

end IcKit
