import IcKit.Mock.Basic

/-!
# Mock/Context — the operations of a `MockContext`

The `impl Context for MockContext` of `mock.rs` (namespace `Context`), the inherent `&self`
methods and the builders (namespace `MockState`), as operations on the fields of a context.
Each `Context` operation marks its `Watcher` flag before anything else, as the source does.
`call_raw`, the one operation that reads the handler chain, is in `Mock/CallRaw`.

Three external pieces enter as arguments: the wall clock (`time` takes its reading), the
Candid codec (`stable_store` takes the outcome of `encode_args`, `stable_restore` a decoder of
a prefix of the buffer) and the `DefaultHasher` of `sign`, whose algorithm the standard library
leaves unspecified.
-/

namespace IcKit

variable {TypeId : Type} {Ty : TypeId → Type}

/-! ## The placeholder certificate -/

/-- `u64::to_be_bytes`. -/
def toBeBytes (x : UInt64) : List UInt8 :=
  ([56, 48, 40, 32, 24, 16, 8, 0] : List UInt64).map fun n => (x >>> n).toUInt8

/-- The 32-byte buffer `sign` hashes: `data` written over zeros from index 0 (`tmp[i] = *b`,
which panics at index 32, the first past the end). -/
def signBuffer (data : List UInt8) : Except Panic (List UInt8) :=
  if data.length ≤ 32 then .ok (data ++ List.replicate (32 - data.length) 0)
  else .error (.indexOutOfBounds 32 32)

/-- `MockContext::sign`: for each byte of the buffer, hash the certificate built so far followed
by that byte, and append the hash's eight big-endian bytes.  `defaultHasher` is
`DefaultHasher::new()` fed a byte sequence through `write_u8`, then `finish()`. -/
def sign (defaultHasher : List UInt8 → UInt64) (data : List UInt8) : Except Panic (List UInt8) :=
  (signBuffer data).map fun buffer =>
    buffer.foldl (fun certificate b => certificate ++ toBeBytes (defaultHasher (certificate ++ [b])))
      []

/-! ## `impl Context for MockContext` -/

namespace Context

/-- `trap`: sets `trapped`, then panics. -/
def trap (message : String) (s : MockState Ty) : Outcome (MockState Ty) Unit :=
  .error (.trapped s.id message) { s with trapped := true }

/-- `print`: writes to standard output and leaves the context as it is. -/
def print (_ : String) (s : MockState Ty) : Outcome (MockState Ty) Unit := .ok () s

/-- `id()`. -/
def id (s : MockState Ty) : Outcome (MockState Ty) Principal :=
  .ok s.id { s with watcher.calledId := true }

/-- `time()`: the wall clock's nanoseconds since the epoch, cut to `u64` by `as u64`. -/
def time (now : Nat) (s : MockState Ty) : Outcome (MockState Ty) Nat :=
  .ok (now % 2 ^ 64) { s with watcher.calledTime := true }

/-- `balance()`. -/
def balance (s : MockState Ty) : Outcome (MockState Ty) Nat :=
  .ok s.balance { s with watcher.calledBalance := true }

/-- `caller()`: panics in reply-callback mode, after `self.id()` (which marks `called_id`) has
formatted the message. -/
def caller (s : MockState Ty) : Outcome (MockState Ty) Principal :=
  let s := { s with watcher.calledCaller := true }
  if s.isReplyCallbackMode then .error (.replyCallbackMode s.id) { s with watcher.calledId := true }
  else .ok s.caller s

/-- `msg_cycles_available()`. -/
def msgCyclesAvailable (s : MockState Ty) : Outcome (MockState Ty) Nat :=
  .ok s.cycles { s with watcher.calledMsgCyclesAvailable := true }

/-- `msg_cycles_accept(cycles)`: moves `min cycles available` from the available cycles to the
balance; `balance += r` panics on overflow, after `cycles` has been lowered. -/
def msgCyclesAccept (cycles : Nat) (s : MockState Ty) : Outcome (MockState Ty) Nat :=
  let s := { s with watcher.calledMsgCyclesAccept := true }
  if cycles > s.cycles then
    let r := s.cycles
    let s := { s with cycles := 0 }
    if s.balance + r ≤ u64Max then .ok r { s with balance := s.balance + r }
    else .error .addOverflow s
  else
    let s := { s with cycles := s.cycles - cycles }
    if s.balance + cycles ≤ u64Max then .ok cycles { s with balance := s.balance + cycles }
    else .error .addOverflow s

/-- `msg_cycles_refunded()`. -/
def msgCyclesRefunded (s : MockState Ty) : Outcome (MockState Ty) Nat :=
  .ok s.cyclesRefunded { s with watcher.calledMsgCyclesRefunded := true }

/-- `store::<T>(data)`, at `T`'s type id `k`. -/
def store [DecidableEq TypeId] (k : TypeId) (data : Ty k) (s : MockState Ty) : Outcome (MockState Ty) Unit :=
  .ok () { s with
    watcher := s.watcher.markModified k
    storage := Function.update s.storage k (some ⟨k, data⟩) }

/-- `get::<T>()`: inserts `T::default()` when the slot is empty, then downcasts. -/
def get [DecidableEq TypeId] (k : TypeId) [Inhabited (Ty k)] (s : MockState Ty) : Outcome (MockState Ty) (Ty k) :=
  let slot := (s.storage k).getD ⟨k, default⟩
  let s := { s with storage := Function.update s.storage k (some slot) }
  match slot.downcast k with
  | some v => .ok v s
  | none => .error .invalidType s

/-- `get_mut::<T>()`, then `write` through the returned reference: marks `T` modified, inserts
`T::default()` when the slot is empty, downcasts, and stores what `write` makes of the value. -/
def getMut [DecidableEq TypeId] (k : TypeId) [Inhabited (Ty k)] (write : Ty k → Ty k) (s : MockState Ty) :
    Outcome (MockState Ty) (Ty k) :=
  let s := { s with watcher := s.watcher.markModified k }
  let slot := (s.storage k).getD ⟨k, default⟩
  match slot.downcast k with
  | some v => .ok (write v) { s with storage := Function.update s.storage k (some ⟨k, write v⟩) }
  | none => .error .invalidType { s with storage := Function.update s.storage k (some slot) }

/-- `delete::<T>()`: whether a slot was there to remove. -/
def delete [DecidableEq TypeId] (k : TypeId) (s : MockState Ty) : Outcome (MockState Ty) Bool :=
  .ok (s.storage k).isSome { s with
    watcher := s.watcher.markModified k
    storage := Function.update s.storage k none }

/-- `stable_store(data)`, given what `encode_args(data)` returned: the buffer is replaced on
success, and an encoding error is returned as the call's result. -/
def stableStore (encoded : Except String (List UInt8)) (s : MockState Ty) :
    Outcome (MockState Ty) (Except String Unit) :=
  let s := { s with watcher.calledStableStore := true }
  match encoded with
  | .ok bytes => .ok (.ok ()) { s with stable := bytes }
  | .error e => .ok (.error e) s

/-- `stable_restore()`: `decode` reads a prefix of the buffer; trailing bytes are ignored. -/
def stableRestore {α : Type} (decode : List UInt8 → Except String α) (s : MockState Ty) :
    Outcome (MockState Ty) (Except String α) :=
  .ok (decode s.stable) { s with watcher.calledStableRestore := true }

/-- `set_certified_data(data)`: at most 32 bytes, signed into the certificate. -/
def setCertifiedData (defaultHasher : List UInt8 → UInt64) (data : List UInt8)
    (s : MockState Ty) : Outcome (MockState Ty) Unit :=
  if data.length > 32 then .error .certifiedDataTooLong s
  else
    let s := { s with watcher.calledSetCertifiedData := true }
    match sign defaultHasher data with
    | .ok certificate => .ok () { s with certificate := some certificate, certifiedData := some data }
    | .error p => .error p s

/-- `data_certificate()`. -/
def dataCertificate (s : MockState Ty) : Outcome (MockState Ty) (Option (List UInt8)) :=
  .ok s.certificate { s with watcher.calledDataCertificate := true }

end Context

/-! ## Inherent methods and builders -/

namespace MockState

/-- `watch()`: a fresh `Watcher`. -/
def watch (s : MockState Ty) : MockState Ty := { s with watcher := .default }

/-- `call_state_reset()`: leaves reply-callback mode and clears `trapped`. -/
def callStateReset (s : MockState Ty) : MockState Ty :=
  { s with isReplyCallbackMode := false, trapped := false }

/-- `clear_storage()`. -/
def clearStorage (s : MockState Ty) : MockState Ty := { s with storage := fun _ => none }

/-- `update_balance(cycles)`. -/
def updateBalance (cycles : Nat) (s : MockState Ty) : MockState Ty := { s with balance := cycles }

/-- `update_msg_cycles(cycles)`. -/
def updateMsgCycles (cycles : Nat) (s : MockState Ty) : MockState Ty := { s with cycles := cycles }

/-- `update_caller(caller)`. -/
def updateCaller (caller : Principal) (s : MockState Ty) : MockState Ty := { s with caller := caller }

/-- `get_certified_data()`. -/
def getCertifiedData (s : MockState Ty) : Option (List UInt8) := s.certifiedData

/-- `with_id(id)`. -/
def withId (id : Principal) (s : MockState Ty) : MockState Ty := { s with id := id }

/-- `with_balance(cycles)`. -/
def withBalance (cycles : Nat) (s : MockState Ty) : MockState Ty := { s with balance := cycles }

/-- `with_caller(caller)`. -/
def withCaller (caller : Principal) (s : MockState Ty) : MockState Ty := { s with caller := caller }

/-- `with_msg_cycles(cycles)`. -/
def withMsgCycles (cycles : Nat) (s : MockState Ty) : MockState Ty := { s with cycles := cycles }

/-- `with_data::<T>(data)`: inserts without marking anything. -/
def withData [DecidableEq TypeId] (k : TypeId) (data : Ty k) (s : MockState Ty) : MockState Ty :=
  { s with storage := Function.update s.storage k (some ⟨k, data⟩) }

/-- `with_stable(data)`: `stable_store`, whose error the `expect` turns into a panic. -/
def withStable (encoded : Except String (List UInt8)) (s : MockState Ty) :
    Outcome (MockState Ty) Unit :=
  match Context.stableStore encoded s with
  | .ok (.ok ()) s => .ok () s
  | .ok (.error e) s => .error (.stableEncoding e) s
  | .error p s => .error p s

/-- `with_certified_data(data)`: asserts fewer than 32 bytes, then signs. -/
def withCertifiedData (defaultHasher : List UInt8 → UInt64) (data : List UInt8)
    (s : MockState Ty) : Outcome (MockState Ty) Unit :=
  if data.length < 32 then
    match sign defaultHasher data with
    | .ok certificate => .ok () { s with certificate := some certificate, certifiedData := some data }
    | .error p => .error p s
  else .error .certifiedDataNotShort s

end MockState

/-! ## What the cycle operations touch -/

/-- `s'` differs from `s` at most in the available cycles, the balance and the watcher's
flags: what `msg_cycles_available` and `msg_cycles_accept` may change. -/
structure MockState.CyclesOnly (s s' : MockState Ty) : Prop where
  id : s'.id = s.id
  caller : s'.caller = s.caller
  isReplyCallbackMode : s'.isReplyCallbackMode = s.isReplyCallbackMode
  trapped : s'.trapped = s.trapped
  cyclesRefunded : s'.cyclesRefunded = s.cyclesRefunded
  storage : s'.storage = s.storage
  stable : s'.stable = s.stable
  certifiedData : s'.certifiedData = s.certifiedData
  certificate : s'.certificate = s.certificate
  calls : s'.watcher.calls = s.watcher.calls
  storageModified : s'.watcher.storageModified = s.watcher.storageModified

namespace MockState.CyclesOnly

theorem refl (s : MockState Ty) : s.CyclesOnly s := ⟨rfl, rfl, rfl, rfl, rfl, rfl, rfl, rfl, rfl, rfl, rfl⟩

theorem trans {s s' s'' : MockState Ty} (h : s.CyclesOnly s') (h' : s'.CyclesOnly s'') :
    s.CyclesOnly s'' :=
  ⟨h'.1.trans h.1, h'.2.trans h.2, h'.3.trans h.3, h'.4.trans h.4, h'.5.trans h.5,
    h'.6.trans h.6, h'.7.trans h.7, h'.8.trans h.8, h'.9.trans h.9, h'.10.trans h.10,
    h'.11.trans h.11⟩

end MockState.CyclesOnly

namespace Context

/-- **`msg_cycles_accept`, in one branch**: it takes `a = min cycles available` and credits it. -/
theorem msgCyclesAccept_eq (n : Nat) (s : MockState Ty) :
    msgCyclesAccept n s =
      if s.balance + min n s.cycles ≤ u64Max then
        .ok (min n s.cycles) { s with
          watcher.calledMsgCyclesAccept := true
          cycles := s.cycles - min n s.cycles
          balance := s.balance + min n s.cycles }
      else .error .addOverflow { s with
          watcher.calledMsgCyclesAccept := true
          cycles := s.cycles - min n s.cycles } := by
  unfold msgCyclesAccept
  by_cases h : n > s.cycles
  · simp only [if_pos h, Nat.min_eq_right (Nat.le_of_lt h), Nat.sub_self]
  · simp only [if_neg h, Nat.min_eq_left (Nat.le_of_not_lt h)]

/-- Without overflow, `msg_cycles_accept` moves `min n available` from the cycles to the
balance and touches nothing else. -/
theorem msgCyclesAccept_ok (n : Nat) (s : MockState Ty) (h : s.balance + s.cycles ≤ u64Max) :
    ∃ s', msgCyclesAccept n s = .ok (min n s.cycles) s' ∧
      s'.cycles = s.cycles - min n s.cycles ∧ s'.balance = s.balance + min n s.cycles ∧
      s.CyclesOnly s' := by
  rw [msgCyclesAccept_eq, if_pos (by have := Nat.min_le_right n s.cycles; omega)]
  exact ⟨_, rfl, rfl, rfl, by constructor <;> rfl⟩

/-- A returning `msg_cycles_accept` lowers the available cycles by what it adds to the balance,
and touches nothing else. -/
theorem msgCyclesAccept_of_ok {n : Nat} {s s' : MockState Ty} {a : Nat}
    (h : msgCyclesAccept n s = .ok a s') :
    s'.cycles ≤ s.cycles ∧ s'.balance + s'.cycles = s.balance + s.cycles ∧ s.CyclesOnly s' := by
  rw [msgCyclesAccept_eq] at h
  split at h
  · cases h
    exact ⟨Nat.sub_le _ _, by simp only; omega, by constructor <;> rfl⟩
  · cases h

theorem msgCyclesAvailable_eq (s : MockState Ty) :
    ∃ s', msgCyclesAvailable s = .ok s.cycles s' ∧ s'.cycles = s.cycles ∧
      s'.balance = s.balance ∧ s.CyclesOnly s' :=
  ⟨_, rfl, rfl, rfl, by constructor <;> rfl⟩

/-! ## What a returning operation leaves

One lemma for each operation that can panic or branches: the guards it passed and the
context it returned in.  The other operations are record updates, read off by unfolding. -/

variable {s s' : MockState Ty}

theorem trap_ne_ok (message : String) (a : Unit) : trap message s ≠ .ok a s' := nofun

theorem caller_of_ok {p : Principal} (h : caller s = .ok p s') :
    s.isReplyCallbackMode = false ∧ p = s.caller ∧ s' = { s with watcher.calledCaller := true } := by
  dsimp only [caller] at h
  split at h
  · cases h
  · cases h
    exact ⟨Bool.eq_false_iff.2 ‹_›, rfl, rfl⟩

theorem msgCyclesAccept_of_ok' {n a : Nat} (h : msgCyclesAccept n s = .ok a s') :
    a = min n s.cycles ∧ s' = { s with
      watcher.calledMsgCyclesAccept := true
      cycles := s.cycles - min n s.cycles
      balance := s.balance + min n s.cycles } := by
  rw [msgCyclesAccept_eq] at h
  split at h
  · cases h
    exact ⟨rfl, rfl⟩
  · cases h

theorem get_of_ok [DecidableEq TypeId] {k : TypeId} [Inhabited (Ty k)] {v : Ty k}
    (h : get k s = .ok v s') :
    ((s.storage k).getD ⟨k, default⟩).downcast k = some v ∧
      s' = { s with storage := Function.update s.storage k (some ((s.storage k).getD ⟨k, default⟩)) } := by
  dsimp only [get] at h
  split at h
  · cases h
    exact ⟨‹_›, rfl⟩
  · cases h

theorem getMut_of_ok [DecidableEq TypeId] {k : TypeId} [Inhabited (Ty k)] {write : Ty k → Ty k}
    {v : Ty k} (h : getMut k write s = .ok v s') :
    ∃ v₀, ((s.storage k).getD ⟨k, default⟩).downcast k = some v₀ ∧ v = write v₀ ∧
      s' = { s with
        watcher := s.watcher.markModified k
        storage := Function.update s.storage k (some ⟨k, write v₀⟩) } := by
  dsimp only [getMut] at h
  split at h
  · cases h
    exact ⟨_, ‹_›, rfl, rfl⟩
  · cases h

theorem stableStore_of_ok {encoded : Except String (List UInt8)} {r : Except String Unit}
    (h : stableStore encoded s = .ok r s') :
    s' = { s with watcher.calledStableStore := true, stable := encoded.toOption.getD s.stable } := by
  cases encoded <;> cases h <;> rfl

theorem setCertifiedData_of_ok {defaultHasher : List UInt8 → UInt64} {data : List UInt8}
    {a : Unit} (h : setCertifiedData defaultHasher data s = .ok a s') :
    data.length ≤ 32 ∧ ∃ c, sign defaultHasher data = .ok c ∧ s' = { s with
      watcher.calledSetCertifiedData := true
      certificate := some c
      certifiedData := some data } := by
  unfold setCertifiedData at h
  split at h
  · cases h
  · split at h
    · cases h
      exact ⟨by omega, _, ‹_›, rfl⟩
    · cases h

end Context

namespace MockState

variable {s s' : MockState Ty}

theorem withStable_of_ok {encoded : Except String (List UInt8)} {a : Unit}
    (h : withStable encoded s = .ok a s') :
    ∃ bytes, encoded = .ok bytes ∧
      s' = { s with watcher.calledStableStore := true, stable := bytes } := by
  cases encoded with
  | ok bytes => cases h; exact ⟨bytes, rfl, rfl⟩
  | error e => cases h

theorem withCertifiedData_of_ok {defaultHasher : List UInt8 → UInt64} {data : List UInt8}
    {a : Unit} (h : withCertifiedData defaultHasher data s = .ok a s') :
    data.length < 32 ∧ ∃ c, sign defaultHasher data = .ok c ∧
      s' = { s with certificate := some c, certifiedData := some data } := by
  unfold withCertifiedData at h
  split at h
  · split at h
    · cases h
      exact ⟨‹_›, _, ‹_›, rfl⟩
    · cases h
  · cases h

end MockState

end IcKit
