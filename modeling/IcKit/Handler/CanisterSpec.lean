import IcKit.Handler.MethodSpec

/-!
# Handler/CanisterSpec — routing and the persistent context of a `Canister`

`Canister::accept` consults the table entry's own `accept`, while `Canister::perform` routes to
the table entry whatever that entry's `accept` says; the two agree on *whether* some sub-handler
is found (`route_isSome_of_accept`), not on *which*: an entry that rejects the method shadows
the default (`misrouted_route_rejects`).

`Canister::perform` asserts that the sub-handler's refund is what its context has left
available.  Both handlers that run on a supplied context compute the refund as exactly that,
and a nested `Canister` refuses the context first, so the assertion never fails
(`performIn_eq_of_route`).  For `Method` sub-handlers the call moves cycles from the message to
the canister's balance and nothing else, and over a sequence of calls the balance grows by what
the calls consumed (`performSeq_balance`).  So a handler whose every leaf is a `Method` never
refunds more than it was sent (`CallHandler.perform_refund_le`); a `RawHandler` may.
-/

namespace IcKit

variable {TypeId : Type} {Ty : TypeId → Type}

/-! ## Acceptance and routing -/

namespace CallHandler

/-- `acceptEntry` is the table lookup followed by the entry's `accept`. -/
theorem acceptEntry_eq (t : Principal) (m : String) : ∀ ms : List (String × CallHandler Ty),
    acceptEntry ms t m = ((ms.lookup m).map fun h => h.accept t m).getD false
  | [] => rfl
  | (name, h) :: rest => by
    cases hm : m == name <;> simp [acceptEntry, List.lookup, hm, acceptEntry_eq t m rest]

end CallHandler

namespace Canister

/-- **Acceptance finds a sub-handler**: when a `Canister` accepts a call, its routing lands on
the table's entry or on the default, so the `unwrap` of `Canister::perform` is never reached. -/
theorem route_isSome_of_accept (c : Canister Ty (CallHandler Ty)) (t : Principal) (m : String)
    (h : c.accept t m = true) : (c.route m).isSome := by
  obtain ⟨id, methods, default, context⟩ := c
  simp only [Canister.accept, CallHandler.acceptEntry_eq, Bool.and_eq_true, Bool.or_eq_true] at h
  simp only [route]
  cases hl : methods.lookup m with
  | some _ => rfl
  | none =>
    rw [hl] at h
    simpa using h.2

/-- A canister answering every method with its default, a fresh `Method`. -/
def catchAll : Canister UnitStorage (CallHandler UnitStorage) :=
  { (Canister.new ⟨"rrkah-fqaaa-aaaaa-aaaaq-cai"⟩ : Canister UnitStorage (CallHandler UnitStorage)) with
    default := some (.method Method.new) }

theorem catchAll_route_isSome :
    catchAll.accept catchAll.id "greet" = true ∧ (catchAll.route "greet").isSome :=
  ⟨rfl, route_isSome_of_accept catchAll catchAll.id "greet" rfl⟩

/-- A canister whose table maps `bar` to a method named `foo`, and which has a default. -/
def misrouted : Canister UnitStorage (CallHandler UnitStorage) :=
  { (Canister.new ⟨"rrkah-fqaaa-aaaaa-aaaaq-cai"⟩ : Canister UnitStorage (CallHandler UnitStorage)) with
    methods := [("bar", .method { Method.new with name := some "foo" })]
    default := some (.method Method.new) }

/-- `misrouted` is what the builders make; it accepts a call to `bar` through its default, and
routes that call to the table's `foo` method, which rejects it. -/
theorem misrouted_route_rejects :
    (do
      let foo ← Method.new.setName "foo"
      let c ← (Canister.new ⟨"rrkah-fqaaa-aaaaa-aaaaq-cai"⟩ :
        Canister UnitStorage (CallHandler UnitStorage)).method "bar" (CallHandler.method foo)
      c.or (CallHandler.method Method.new)) = .ok misrouted ∧
    misrouted.accept misrouted.id "bar" = true ∧
    ∃ h, misrouted.route "bar" = some h ∧ h.accept misrouted.id "bar" = false :=
  ⟨rfl, rfl, _, rfl, rfl⟩

/-! ## The refund assertion -/

end Canister

/-- A returning `RawHandler` refunds what its context has left available. -/
theorem RawHandler.perform_ok_refund {r : RawHandler Ty} {caller : Principal} {cycles : Nat}
    {t : Principal} {m : String} {x : List UInt8} {ctx ctx' : Option (MockState Ty)}
    {res : CallResult} {refund : Nat}
    (h : r.perform caller cycles t m x ctx = .ok (res, refund) ctx') :
    ∃ s', ctx' = ctx.map (fun _ => s') ∧ s'.cycles = refund := by
  obtain ⟨_, hr, rfl⟩ := Outcome.mapState_eq_ok h
  obtain ⟨_, _, -, hk⟩ := Outcome.bind_eq_ok hr
  cases hk
  exact ⟨_, rfl, rfl⟩

namespace CallHandler

/-- **The refund of a sub-handler is what its context has left available**: so the
`assert_eq!` of `Canister::perform` holds whenever the sub-handler returns. -/
theorem performOn_ok_refund {h : CallHandler Ty} {caller : Principal} {cycles : Nat}
    {t : Principal} {m : String} {x : List UInt8} {ctx s : MockState Ty} {res : CallResult × Nat}
    (hp : h.performOn caller cycles t m x ctx = .ok res s) : res.2 = s.cycles := by
  obtain ⟨res, r⟩ := res
  cases h with
  | method mth =>
    obtain ⟨_, hq, rfl⟩ := Outcome.mapState_eq_ok hp
    obtain ⟨-, s', rfl, hc, -⟩ := Method.perform_ok hq
    exact hc.symm
  | raw rh =>
    obtain ⟨_, hq, rfl⟩ := Outcome.mapState_eq_ok hp
    obtain ⟨s', rfl, hc⟩ := RawHandler.perform_ok_refund hq
    exact hc.symm
  | canister => cases hp

end CallHandler

namespace Canister

/-- **The assertion of `Canister::perform` never fails**: once routed, the call is the
sub-handler's `perform` on the canister's context, followed by zeroing the cycles left. -/
theorem performIn_eq_of_route {c : Canister Ty (CallHandler Ty)} {m : String} {h : CallHandler Ty}
    (hr : c.route m = some h) (p : Principal) (cycles : Nat) (t : Principal) (x : List UInt8) :
    c.performIn p cycles t m x =
      Outcome.bind (h.performOn p cycles t m x (c.callContext p cycles)) fun res s =>
        .ok res ({ s with watcher.calledMsgCyclesAvailable := true }.updateMsgCycles 0) := by
  simp only [performIn, hr]
  cases hq : h.performOn p cycles t m x (c.callContext p cycles) with
  | ok res s =>
    simp only [Outcome.bind_ok, Context.msgCyclesAvailable, if_pos (CallHandler.performOn_ok_refund hq)]
  | error => rfl

/-- Routed to a `Method`, a returning call leaves the caller set, no cycles available, and the
balance grown by what the method kept; the canister's id, storage, stable buffer and certified
data are untouched. -/
theorem performIn_of_method {c : Canister Ty (CallHandler Ty)} {m : String} {mth : Method}
    (hr : c.route m = some (.method mth)) {p : Principal} {cycles : Nat} {t : Principal}
    {x : List UInt8} {res : CallResult × Nat} {s : MockState Ty}
    (h : c.performIn p cycles t m x = .ok res s) :
    s.cycles = 0 ∧ s.caller = p ∧ res.2 ≤ cycles ∧
      s.balance = c.context.balance + (cycles - res.2) ∧ s.id = c.context.id ∧
      s.storage = c.context.storage ∧ s.stable = c.context.stable ∧
      s.certifiedData = c.context.certifiedData ∧ s.certificate = c.context.certificate := by
  rw [performIn_eq_of_route hr] at h
  obtain ⟨⟨v, r⟩, _, h', h⟩ := Outcome.bind_eq_ok h
  cases h
  obtain ⟨_, hq, rfl⟩ := Outcome.mapState_eq_ok h'
  obtain ⟨hle, s', rfl, hc, hb, hf⟩ := Method.perform_ok hq
  have hb' : s'.balance + r = c.context.balance + cycles := hb
  have hle' : r ≤ cycles := hle
  exact ⟨rfl, hf.caller, hle', show s'.balance = _ by omega, hf.id, hf.storage, hf.stable,
    hf.certifiedData, hf.certificate⟩

/-! ## A sequence of calls -/

/-- Every sub-handler of the canister is a `Method`. -/
def MethodBacked (c : Canister Ty (CallHandler Ty)) : Prop :=
  (∀ e ∈ c.methods, ∃ mth, e.2 = .method mth) ∧ ∀ h ∈ c.default, ∃ mth, h = .method mth

theorem MethodBacked.route {c : Canister Ty (CallHandler Ty)} (hc : c.MethodBacked) {m : String}
    {h : CallHandler Ty} (hr : c.route m = some h) : ∃ mth, h = .method mth := by
  simp only [Canister.route] at hr
  cases hl : c.methods.lookup m with
  | some h' =>
    simp only [hl, Option.or_some, Option.some.injEq] at hr
    obtain ⟨l₁, l₂, heq, -⟩ := List.lookup_eq_some_iff.1 hl
    subst hr
    exact hc.1 (m, h') (by simp [heq])
  | none =>
    simp only [hl, Option.none_or] at hr
    exact hc.2 h hr

/-- One call as `call_raw` hands it to a handler. -/
structure CallArgs where
  caller : Principal
  cycles : Nat
  canisterId : Principal
  method : String
  argsRaw : List UInt8

/-- Calls made to a canister one after another, each on the context the last one left: the
refunds, in order. -/
def performSeq : Canister Ty (CallHandler Ty) → List CallArgs → Outcome (MockState Ty) (List Nat)
  | c, [] => .ok [] c.context
  | c, a :: as =>
    Outcome.bind (c.performIn a.caller a.cycles a.canisterId a.method a.argsRaw) fun res s =>
      Outcome.bind (performSeq { c with context := s } as) fun refunds s => .ok (res.2 :: refunds) s

/-- **The balance of a `Method`-backed canister is its initial balance plus what its calls
consumed**, over any sequence of calls. -/
theorem performSeq_balance : ∀ (c : Canister Ty (CallHandler Ty)) (calls : List CallArgs)
    (refunds : List Nat) (s : MockState Ty), c.MethodBacked → c.performSeq calls = .ok refunds s →
    s.balance = c.context.balance + (List.zipWith (fun a r => a.cycles - r) calls refunds).sum
  | c, [], refunds, s, _, h => by
    cases h
    simp
  | c, a :: as, refunds, s, hc, h => by
    obtain ⟨res, s₁, h₁, h⟩ := Outcome.bind_eq_ok h
    obtain ⟨rs, _, h₂, h⟩ := Outcome.bind_eq_ok h
    cases h
    cases hr : c.route a.method with
    | none => simp [performIn, hr] at h₁
    | some sub =>
      obtain ⟨mth, rfl⟩ := hc.route hr
      have hb₁ := (performIn_of_method hr h₁).2.2.2.1
      have ih := performSeq_balance { c with context := s₁ } as rs _ hc h₂
      simp only [List.zipWith_cons_cons, List.sum_cons] at ih ⊢
      omega

/-- **`Canister::perform` keeps its context consistent.**  An accepted call is routed to a
sub-handler, and the refund assertion never fails: the call is that sub-handler's `perform` on
the canister's context followed by zeroing the cycles left; a nested `Canister` refuses the
context first.  On return no cycles are left available, and when the sub-handler is a
`Method` the caller is the call's, the refund is at most the cycles sent, the balance has grown
by the rest, and id, storage, stable buffer and certified data are untouched.  Over any
sequence of calls, a `Method`-backed canister's balance grows by exactly what they consumed. -/
theorem performIn_consistent (c : Canister Ty (CallHandler Ty)) (p : Principal) (cycles : Nat)
    (t : Principal) (m : String) (x : List UInt8) :
    (c.accept t m = true → ∃ h, c.route m = some h ∧
      c.performIn p cycles t m x =
        Outcome.bind (h.performOn p cycles t m x (c.callContext p cycles)) (fun res s =>
          .ok res ({ s with watcher.calledMsgCyclesAvailable := true }.updateMsgCycles 0)) ∧
      (∀ c', h = .canister c' →
        c.performIn p cycles t m x = .error .contextSupplied (c.callContext p cycles)) ∧
      ∀ res s, c.performIn p cycles t m x = .ok res s → s.cycles = 0 ∧
        ∀ mth, h = .method mth →
          s.caller = p ∧ res.2 ≤ cycles ∧ s.balance = c.context.balance + (cycles - res.2) ∧
          s.id = c.context.id ∧ s.storage = c.context.storage ∧ s.stable = c.context.stable ∧
          s.certifiedData = c.context.certifiedData ∧ s.certificate = c.context.certificate) ∧
    (c.MethodBacked → ∀ calls refunds s, c.performSeq calls = .ok refunds s →
      s.balance = c.context.balance + (List.zipWith (fun a r => a.cycles - r) calls refunds).sum) := by
  refine ⟨fun hacc => ?_, fun hc calls refunds s h => performSeq_balance c calls refunds s hc h⟩
  obtain ⟨h, hr⟩ := Option.isSome_iff_exists.1 (route_isSome_of_accept c t m hacc)
  refine ⟨h, hr, performIn_eq_of_route hr p cycles t x, fun c' hc' => ?_, fun res s hs => ⟨?_, ?_⟩⟩
  · subst hc'
    rw [performIn_eq_of_route hr]
    rfl
  · rw [performIn_eq_of_route hr] at hs
    cases hq : h.performOn p cycles t m x (c.callContext p cycles) with
    | ok res' s' => rw [hq] at hs; cases hs; rfl
    | error q s' => rw [hq] at hs; cases hs
  · rintro mth rfl
    exact (performIn_of_method hr hs).2

/-- A `RawHandler` whose closure puts the management canister in the caller's place. -/
def callerReplacing : RawHandler UnitStorage :=
  ⟨fun s _ _ _ => .ok (.ok []) (s.updateCaller .managementCanister)⟩

/-- A canister whose only sub-handler is `callerReplacing`, as its default. -/
def callerReplaced : Canister UnitStorage (CallHandler UnitStorage) :=
  { (Canister.new ⟨"rrkah-fqaaa-aaaaa-aaaaq-cai"⟩ : Canister UnitStorage (CallHandler UnitStorage)) with
    default := some (.raw callerReplacing) }

/-- `callerReplaced` accepts an anonymous call to `greet`, which returns with the management
canister, not the anonymous caller, in the canister's context. -/
theorem callerReplaced_caller :
    callerReplaced.accept callerReplaced.id "greet" = true ∧
    ∃ res s, callerReplaced.performIn .anonymous 0 callerReplaced.id "greet" [] = .ok res s ∧
      s.caller ≠ .anonymous :=
  ⟨rfl, _, _, rfl, by decide⟩

end Canister

/-! ## Handlers whose every leaf is a `Method` -/

namespace CallHandler

/-- A handler whose every leaf is a `Method`: a `Method`, or a `Canister` whose table and
default hold only `Method`s. -/
def MethodBacked : CallHandler Ty → Prop
  | .method _ => True
  | .raw _ => False
  | .canister c => c.MethodBacked

/-- **A `Method`-backed handler refunds at most what it was sent.** -/
theorem perform_refund_le {h : CallHandler Ty} (hm : h.MethodBacked) {caller : Principal}
    {c : Nat} {t : Principal} {m : String} {x : List UInt8} {res : CallResult} {r : Nat}
    {st : CallHandler Ty × Option (MockState Ty)}
    (hp : h.perform caller c t m x none = .ok (res, r) st) : r ≤ c := by
  cases h with
  | method mth =>
    obtain ⟨_, hq, -⟩ := Outcome.mapState_eq_ok hp
    exact (Method.perform_ok hq).1
  | raw => exact hm.elim
  | canister cn =>
    obtain ⟨_, hq, -⟩ := Outcome.mapState_eq_ok hp
    cases hr : cn.route m with
    | none => simp [Canister.performIn, hr] at hq
    | some sub =>
      obtain ⟨mth, rfl⟩ := Canister.MethodBacked.route hm hr
      exact (Canister.performIn_of_method hr hq).2.2.1

end CallHandler

end IcKit
