import Mathlib

/-!
# Mock/Basic — the records of `mock.rs`

The data a `MockContext` holds: the principal it runs as, its cycle counters, the `Watcher` with
its call log, the type-keyed storage, the stable buffer and the certified-data slot.

Cycle amounts are `u64` in the source and `Nat` here; every `+=` and `-=` of the source that can
leave the `u64` range goes through `u64Max` explicitly, and panics there as a debug build does
(the harness runs under `cargo test`).  Panics carry the state reached when they fired
(`EStateM.Result`), so that what a failed operation leaves behind can be stated.

A `Box<dyn Any>` is modelled as a value paired with its runtime type (`AnyBox`), over a
universe of types `Ty : TypeId → Type`: a storage slot holds *some* type's value, and the
downcast checks the type as `downcast_mut` does.
-/

namespace IcKit

/-- A principal (`ic_cdk::export::Principal`), by its textual form. -/
structure Principal where
  text : String
  deriving DecidableEq, Repr

namespace Principal

/-- `Principal::anonymous()`. -/
def anonymous : Principal := ⟨"2vxsx-fae"⟩

/-- `Principal::management_canister()`. -/
def managementCanister : Principal := ⟨"aaaaa-aa"⟩

end Principal

/-- `u64::MAX`. -/
def u64Max : Nat := 2 ^ 64 - 1

/-- `ic_cdk::api::call::RejectionCode`. -/
inductive RejectionCode where
  | noError
  | sysFatal
  | sysTransient
  | destinationInvalid
  | canisterReject
  | canisterError
  | unknown
  deriving DecidableEq, Repr

/-- `CallResult<Vec<u8>>`: the reply bytes, or a rejection. -/
abbrev CallResult := Except (RejectionCode × String) (List UInt8)

/-! ## Panics

Each constructor is one panic site of the source: a `panic!`, an `assert!`, an `expect` or
`unwrap`, or an arithmetic overflow that a debug build checks. -/

/-- Why a mock operation panicked. -/
inductive Panic where
  /-- `call_raw` was asked to send more cycles than the balance. -/
  | insufficientCycles (id : Principal) (cycles balance : Nat)
  /-- `call_raw` found no handler accepting the call. -/
  | noHandlerFound
  /-- `caller()` after a call was made. -/
  | replyCallbackMode (id : Principal)
  /-- `trap(message)`. -/
  | trapped (id : Principal) (message : String)
  /-- The `downcast_mut` of `get`/`get_mut` failed. -/
  | invalidType
  /-- `set_certified_data` with more than 32 bytes. -/
  | certifiedDataTooLong
  /-- `assert!(data.len() < 32)` of `with_certified_data`. -/
  | certifiedDataNotShort
  /-- A `Vec` indexed at `index` past its length `len`: `tmp[i]` of `sign`, `&self.calls[n]` of
  `get_call`. -/
  | indexOutOfBounds (len index : Nat)
  /-- A `RefundCycles` atom asked for more than is available. -/
  | cannotRefund (amount cycles : Nat)
  /-- `assert_eq!(expected_args, args_raw)` of `Method::perform`. -/
  | argsMismatch (expected actual : List UInt8)
  /-- `assert!(ctx.is_none())` of `Canister::perform`. -/
  | contextSupplied
  /-- `assert_eq!(res.1, ctx.msg_cycles_available())` of `Canister::perform`. -/
  | refundMismatch (refund available : Nat)
  /-- `self.default.as_ref().unwrap()` of `Canister::perform`. -/
  | noDefaultHandler
  /-- `Method::name` on a named method. -/
  | methodAlreadyNamed
  /-- `expect_arguments` called twice. -/
  | argumentsAlreadyExpected
  /-- `response` called twice. -/
  | responseAlreadySet
  /-- `Canister::method` with a name already in the table. -/
  | methodExists (name : String) (canister : Principal)
  /-- `Canister::or` with a default already set. -/
  | defaultHandlerSet (canister : Principal)
  /-- A `u64` addition overflowed. -/
  | addOverflow
  /-- A `u64` subtraction went below zero. -/
  | subOverflow
  /-- A `VecDeque` was indexed past its end: its `Index` is
  `self.get(index).expect("Out of bounds access")`. -/
  | outOfBounds
  /-- `with_stable`'s `expect` on a failed encoding. -/
  | stableEncoding (error : String)
  /-- A `RawHandler` closure panicked with its own message. -/
  | handler (message : String)
  deriving DecidableEq, Repr

/-- What an operation on state `σ` does: returns an `α`, or panics, in the state it reached. -/
abbrev Outcome (σ α : Type) := EStateM.Result Panic σ α

namespace Outcome

variable {σ τ α β : Type}

/-- Continues with `k` in the state `r` returned in; a panic is passed on as it is. -/
def bind (r : Outcome σ α) (k : α → σ → Outcome σ β) : Outcome σ β :=
  match r with
  | .ok a s => k a s
  | .error p s => .error p s

/-- The same outcome, seen in a larger state. -/
def mapState (f : σ → τ) : Outcome σ α → Outcome τ α
  | .ok a s => .ok a (f s)
  | .error p s => .error p (f s)

/-- The state an outcome ended in, whether it returned or panicked. -/
def state : Outcome σ α → σ
  | .ok _ s => s
  | .error _ s => s

@[simp] theorem bind_ok (a : α) (s : σ) (k : α → σ → Outcome σ β) : bind (.ok a s) k = k a s :=
  rfl

@[simp] theorem bind_error (p : Panic) (s : σ) (k : α → σ → Outcome σ β) :
    bind (.error p s) k = .error p s := rfl

@[simp] theorem mapState_ok (f : σ → τ) (a : α) (s : σ) :
    mapState f (.ok a s) = .ok a (f s) := rfl

@[simp] theorem mapState_error (f : σ → τ) (p : Panic) (s : σ) :
    mapState f (.error p s : Outcome σ α) = .error p (f s) := rfl

@[simp] theorem state_mapState (f : σ → τ) (r : Outcome σ α) : (mapState f r).state = f r.state := by
  cases r <;> rfl

theorem bind_discard_eq_ok {r : Outcome σ α} {s : σ}
    (h : bind r (fun _ s => (.ok () s : Outcome σ Unit)) = .ok () s) : ∃ a, r = .ok a s := by
  cases r with
  | ok a s' => cases h; exact ⟨a, rfl⟩
  | error p s' => cases h

theorem bind_eq_ok {r : Outcome σ α} {k : α → σ → Outcome σ β} {b : β} {s : σ}
    (h : bind r k = .ok b s) : ∃ a s', r = .ok a s' ∧ k a s' = .ok b s := by
  cases r with
  | ok a s' => exact ⟨a, s', rfl, h⟩
  | error p s' => cases h

theorem mapState_eq_ok {f : σ → τ} {r : Outcome σ α} {a : α} {t : τ}
    (h : mapState f r = .ok a t) : ∃ s, r = .ok a s ∧ t = f s := by
  cases r with
  | ok a' s => cases h; exact ⟨s, rfl, rfl⟩
  | error p s => cases h

theorem mapState_eq_error {f : σ → τ} {r : Outcome σ α} {p : Panic} {t : τ}
    (h : mapState f r = .error p t) : ∃ s, r = .error p s ∧ t = f s := by
  cases r with
  | ok a s => cases h
  | error p' s => cases h; exact ⟨s, rfl, rfl⟩

end Outcome

/-- The text each panic prints, as the source formats it. -/
def Panic.message : Panic → String
  | .insufficientCycles id cycles balance =>
    "Calling canister " ++ id.text ++ " with " ++ toString cycles ++
      " cycles when there is only " ++ toString balance ++ " cycles available."
  | .noHandlerFound => "No handler found to handle the data."
  | .replyCallbackMode id =>
    "Canister " ++ id.text ++
      " violated contract: \"ic0_msg_caller_size\" cannot be executed in reply callback mode"
  | .trapped id message => "Canister " ++ id.text ++ " trapped with message: " ++ message
  | .invalidType => "Unexpected value of invalid type."
  | .certifiedDataTooLong => "Data certificate has more than 32 bytes."
  | .certifiedDataNotShort => "assertion failed: data.len() < 32"
  | .indexOutOfBounds len index =>
    "index out of bounds: the len is " ++ toString len ++ " but the index is " ++ toString index
  | .cannotRefund amount cycles =>
    "Can not refund " ++ toString amount ++ " cycles when only " ++ toString cycles ++
      " cycles is available."
  | .argsMismatch expected actual =>
    "assertion `left == right` failed\n  left: " ++ toString expected ++ "\n right: " ++
      toString actual
  | .contextSupplied => "assertion failed: ctx.is_none()"
  | .refundMismatch refund available =>
    "assertion `left == right` failed\n  left: " ++ toString refund ++ "\n right: " ++
      toString available
  | .noDefaultHandler => "called `Option::unwrap()` on a `None` value"
  | .methodAlreadyNamed => "Method already has a name."
  | .argumentsAlreadyExpected => "expect_arguments can only be called once on a method."
  | .responseAlreadySet => "response can only be called once on a method."
  | .methodExists name canister =>
    "Method " ++ name ++ " already exists on canister " ++ canister.text
  | .defaultHandlerSet canister => "Default handler is already set for canister " ++ canister.text
  | .addOverflow => "attempt to add with overflow"
  | .subOverflow => "attempt to subtract with overflow"
  | .outOfBounds => "Out of bounds access"
  | .stableEncoding error => "Encoding stable data failed.: " ++ error
  | .handler message => message

/-- `result += term(x)` over a `u64` accumulator, for each `x` in turn: the term is computed
first, and may panic itself, then added, which panics past `u64::MAX`.  The loops of
`Watcher::cycles_sent`, `cycles_refunded` and `cycles_consumed`. -/
def sumU64 {α : Type} (term : α → Except Panic Nat) (acc : Nat) : List α → Except Panic Nat
  | [] => .ok acc
  | x :: xs => (term x).bind fun t =>
    if acc + t ≤ u64Max then sumU64 term (acc + t) xs else .error .addOverflow

/-- When every term returns `f x`, the `u64` loop from an accumulator that fits returns exactly
when the sum fits, and returns the sum. -/
theorem sumU64_eq_ok_iff {α : Type} {term : α → Except Panic Nat} (f : α → Nat) {acc : Nat}
    (hacc : acc ≤ u64Max) (xs : List α) (hterm : ∀ x ∈ xs, term x = .ok (f x)) (n : Nat) :
    sumU64 term acc xs = .ok n ↔ acc + (xs.map f).sum ≤ u64Max ∧ n = acc + (xs.map f).sum := by
  induction xs generalizing acc with
  | nil => simp [sumU64, hacc, eq_comm]
  | cons x xs ih =>
    rw [sumU64, hterm x (List.mem_cons_self _ _), Except.bind]
    split
    · rw [ih (by omega) fun y hy => hterm y (List.mem_cons_of_mem _ hy), List.map_cons,
        List.sum_cons, Nat.add_assoc]
    · simp only [List.map_cons, List.sum_cons, reduceCtorEq, false_iff, not_and]
      omega

/-! ## The watcher -/

/-- `WatcherCall`: one outbound call, as `call_raw` records it. -/
structure WatcherCall where
  canisterId : Principal
  methodName : String
  argsRaw : List UInt8
  cyclesSent : Nat
  cyclesRefunded : Nat
  deriving DecidableEq, Repr

namespace WatcherCall

/-- `WatcherCall::cycles_consumed`: `cycles_sent - cycles_refunded` in `u64`. -/
def cyclesConsumed (c : WatcherCall) : Except Panic Nat :=
  if c.cyclesRefunded ≤ c.cyclesSent then .ok (c.cyclesSent - c.cyclesRefunded)
  else .error .subOverflow

end WatcherCall

variable {TypeId : Type}

/-- `Watcher`: which context operations ran since the last `watch()`, which storage types were
touched mutably, and the outbound calls. -/
structure Watcher (TypeId : Type) where
  calledId : Bool
  calledTime : Bool
  calledBalance : Bool
  calledCaller : Bool
  calledMsgCyclesAvailable : Bool
  calledMsgCyclesAccept : Bool
  calledMsgCyclesRefunded : Bool
  calledStableStore : Bool
  calledStableRestore : Bool
  calledSetCertifiedData : Bool
  calledDataCertificate : Bool
  /-- The `BTreeSet<TypeId>` of storage items mutated. -/
  storageModified : List TypeId
  calls : List WatcherCall

namespace Watcher

/-- `Watcher::default()`: nothing ran, nothing was called. -/
def default : Watcher TypeId where
  calledId := false
  calledTime := false
  calledBalance := false
  calledCaller := false
  calledMsgCyclesAvailable := false
  calledMsgCyclesAccept := false
  calledMsgCyclesRefunded := false
  calledStableStore := false
  calledStableRestore := false
  calledSetCertifiedData := false
  calledDataCertificate := false
  storageModified := []
  calls := []

/-- `Watcher::record_call`. -/
def recordCall (w : Watcher TypeId) (call : WatcherCall) : Watcher TypeId :=
  { w with calls := w.calls ++ [call] }

/-- `Watcher::call_count`. -/
def callCount (w : Watcher TypeId) : Nat := w.calls.length

/-- `Watcher::cycles_consumed`: each turn computes the call's `cycles_sent - cycles_refunded`,
then adds it, so the loop stops at the first subtraction below zero or addition past
`u64::MAX`, whichever comes first. -/
def cyclesConsumed (w : Watcher TypeId) : Except Panic Nat :=
  sumU64 WatcherCall.cyclesConsumed 0 w.calls

/-- `Watcher::cycles_refunded`. -/
def cyclesRefunded (w : Watcher TypeId) : Except Panic Nat :=
  sumU64 (fun call => .ok call.cyclesRefunded) 0 w.calls

/-- `Watcher::cycles_sent`. -/
def cyclesSent (w : Watcher TypeId) : Except Panic Nat :=
  sumU64 (fun call => .ok call.cyclesSent) 0 w.calls

/-- `Watcher::get_call`: `&self.calls[n]`, which panics past the end. -/
def getCall (w : Watcher TypeId) (n : Nat) : Except Panic WatcherCall :=
  match w.calls[n]? with
  | some c => .ok c
  | none => .error (.indexOutOfBounds w.calls.length n)

/-- `Watcher::is_method_called`. -/
def isMethodCalled (w : Watcher TypeId) (methodName : String) : Bool :=
  w.calls.any fun call => call.methodName == methodName

/-- `Watcher::is_canister_called`. -/
def isCanisterCalled (w : Watcher TypeId) (canisterId : Principal) : Bool :=
  w.calls.any fun call => call.canisterId == canisterId

/-- `Watcher::is_called`. -/
def isCalled (w : Watcher TypeId) (canisterId : Principal) (methodName : String) : Bool :=
  w.calls.any fun call => call.canisterId == canisterId && call.methodName == methodName

/-- `Watcher::is_modified::<T>()`, at `T`'s type id. -/
def isModified [DecidableEq TypeId] (w : Watcher TypeId) (typeId : TypeId) : Bool :=
  typeId ∈ w.storageModified

/-- Marks a storage type as mutated: `storage_modified.insert(type_id)`. -/
def markModified [DecidableEq TypeId] (w : Watcher TypeId) (typeId : TypeId) : Watcher TypeId :=
  { w with storageModified := w.storageModified.insert typeId }

/-! ### The totals in exact arithmetic

The three `cycles_*` queries accumulate in a `u64`; these are the same sums over `Nat`, with
each call's consumption `cycles_sent - cycles_refunded` read as a natural number. -/

/-- The cycles sent by all recorded calls. -/
def sentTotal (w : Watcher TypeId) : Nat := (w.calls.map WatcherCall.cyclesSent).sum

/-- The cycles refunded to all recorded calls. -/
def refundedTotal (w : Watcher TypeId) : Nat := (w.calls.map WatcherCall.cyclesRefunded).sum

/-- The cycles consumed by all recorded calls. -/
def consumedTotal (w : Watcher TypeId) : Nat :=
  (w.calls.map fun c => c.cyclesSent - c.cyclesRefunded).sum

@[simp] theorem recordCall_calls (w : Watcher TypeId) (call : WatcherCall) :
    (w.recordCall call).calls = w.calls ++ [call] := rfl

@[simp] theorem markModified_calls [DecidableEq TypeId] (w : Watcher TypeId) (k : TypeId) :
    (w.markModified k).calls = w.calls := rfl

@[simp] theorem default_calls : (default : Watcher TypeId).calls = [] := rfl

end Watcher

/-! ## Typed storage -/

variable {Ty : TypeId → Type}

/-- `Box<dyn Any>`: a value together with its runtime type. -/
abbrev AnyBox (Ty : TypeId → Type) := Σ k, Ty k

/-- `downcast_mut::<T>()` on a box, at `T`'s type id: the value if the box holds a `T`. -/
def AnyBox.downcast [DecidableEq TypeId] (b : AnyBox Ty) (k : TypeId) : Option (Ty k) :=
  if h : b.1 = k then some (h ▸ b.2) else none

@[simp] theorem AnyBox.downcast_mk [DecidableEq TypeId] (k : TypeId) (v : Ty k) :
    AnyBox.downcast ⟨k, v⟩ k = some v := by
  simp [AnyBox.downcast]

theorem AnyBox.downcast_of_ne [DecidableEq TypeId] {b : AnyBox Ty} {k : TypeId} (h : b.1 ≠ k) :
    b.downcast k = none := dif_neg h

/-- The storage universe with the one type `()`, for contexts at fixed inputs. -/
abbrev UnitStorage : Unit → Type := fun _ => Unit

/-! ## The context's fields -/

/-- The fields of a `MockContext` other than its handler chain.  This is what a handler's
`perform` is handed: the throwaway context of a call or a `Canister`'s own, neither of which
ever holds handlers (`MockContext::new()` starts with none, and nothing adds one to them). -/
structure MockState (Ty : TypeId → Type) where
  watcher : Watcher TypeId
  id : Principal
  balance : Nat
  caller : Principal
  isReplyCallbackMode : Bool
  trapped : Bool
  /-- The cycles sent by the caller and still available. -/
  cycles : Nat
  /-- The cycles refunded by the previous call. -/
  cyclesRefunded : Nat
  /-- The `BTreeMap<TypeId, Box<dyn Any>>`. -/
  storage : TypeId → Option (AnyBox Ty)
  stable : List UInt8
  certifiedData : Option (List UInt8)
  certificate : Option (List UInt8)

/-- `MockContext::new()`: 100 TC of balance, the anonymous caller, nothing stored. -/
def MockState.new : MockState Ty where
  watcher := .default
  id := ⟨"sgymv-uiaaa-aaaaa-aaaia-cai"⟩
  balance := 100000000000000
  caller := .anonymous
  isReplyCallbackMode := false
  trapped := false
  cycles := 0
  cyclesRefunded := 0
  storage := fun _ => none
  stable := []
  certifiedData := none
  certificate := none

end IcKit
