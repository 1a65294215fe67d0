import IcKit.Mock.Context

/-!
# Ws/Connections — the block log of `WsConnections`

`WsConnections` (crate `ic-kit-ws`) keeps, for each of the last `MAX_BLOCK_HEIGHT` blocks, the
messages sent to each connection during that block, in a `VecDeque` whose front is the entry
pushed last.  Every mutation recomputes a root hash over the deque and publishes it as the
canister's certified data.  The block comes from the canister's clock (`get_current_block_id`).

The operations run on the canister's context, which the code reaches through `ic_kit::ic`:
`time()` marks the watcher and `set_certified_data` signs.  SHA-256 and the root hash of a
connection's hash tree are parameters, as `DefaultHasher` is for `sign`.

Below the faithful model, the log itself: `placeBlock` and `appendAtBack` say what `send_raw`
does to the deque, and `sendRaw_eq` proves that it does exactly that, and never panics.
`close_connections` does not compile as written; it is modelled as the loop it evidently
means, which removes the connections from every entry (`removeConnections`).

`get_current_block_id` divides the nanoseconds of `ic::time()` by `1_000_000` into a value it
calls `time_seconds`, which counts milliseconds: a block is a period of 3 milliseconds, not of
`BLOCK_PERIOD_SECONDS = 3` seconds (`blockId_counts_milliseconds`).
-/

namespace IcKit

variable {TypeId : Type} {Ty : TypeId → Type}

/-- `MAX_BLOCK_HEIGHT`: how many blocks the deque keeps. -/
def maxBlockHeight : Nat := 32

/-- `RawMessage`. -/
abbrev RawMessage := List UInt8

/-- `Hash`: 32 bytes. -/
def Hash := { bytes : List UInt8 // bytes.length = 32 }

/-- `[0; 32]`. -/
def Hash.zero : Hash := ⟨List.replicate 32 0, rfl⟩

/-- `Map<ConnectionIdInternal, Seq<RawMessage>>`: the messages of each connection during one
block, empty for a connection with none. -/
def ConnMap := Nat → List RawMessage

namespace ConnMap

/-- `Map::default()`. -/
def empty : ConnMap := fun _ => []

/-- `.entry(connection_id.0).or_default().append(message)`. -/
def push (m : ConnMap) (message : Nat × RawMessage) : ConnMap :=
  Function.update m message.1 (m message.1 ++ [message.2])

/-- `.remove(&connection_id.0)`: the connection's entry goes, and with it its messages. -/
def remove (m : ConnMap) (connectionId : Nat) : ConnMap := Function.update m connectionId []

/-- Removing each of `ids` in turn empties the connections they name and keeps every other. -/
theorem foldl_remove_apply (ids : List Nat) (m : ConnMap) (k : Nat) :
    ids.foldl remove m k = if k ∈ ids then [] else m k := by
  induction ids generalizing m with
  | nil => rfl
  | cons id ids ih =>
    rw [List.foldl_cons, ih, remove]
    by_cases hk : k = id
    · subst hk
      simp [Function.update_same]
    · simp [Function.update_noteq hk, hk]

end ConnMap

/-- `WsConnections`: the deque of `(BlockId, Map)` entries, front first, and the root hash. -/
structure WsConnections where
  connections : List (Nat × ConnMap)
  hash : Hash

/-! ## Panicking arithmetic and indexing -/

/-- `a - b` in `usize`: panics below zero. -/
def usizeSub (a b : Nat) : Except Panic Nat :=
  if b ≤ a then .ok (a - b) else .error .subOverflow

/-- `deque[i]` on a `VecDeque`: panics past the end. -/
def dequeIndex {α : Type} (q : List α) (i : Nat) : Except Panic α :=
  match q[i]? with
  | some a => .ok a
  | none => .error .outOfBounds

/-- The deque with every connection of `ids` removed from the tree of every entry. -/
def removeConnections (ids : List Nat) (q : List (Nat × ConnMap)) : List (Nat × ConnMap) :=
  q.map fun e => (e.1, ids.foldl ConnMap.remove e.2)

/-! ## The operations -/

section Model

variable (sha256 : List UInt8 → Hash) (treeHash : ConnMap → Hash)
  (defaultHasher : List UInt8 → UInt64)

/-- What `recompute_hash` feeds SHA-256: each entry's block id in big-endian bytes, then the
root hash of its tree, front to back. -/
def hashInput (connections : List (Nat × ConnMap)) : List UInt8 :=
  connections.flatMap fun e => toBeBytes (UInt64.ofNat e.1) ++ (treeHash e.2).1

/-- The root hash `recompute_hash` computes. -/
def rootHash (connections : List (Nat × ConnMap)) : Hash := sha256 (hashInput treeHash connections)

/-- `recompute_hash()`: store the root hash, then `ic::set_certified_data(&root_hash)`. -/
def WsConnections.recomputeHash (ws : WsConnections) (s : MockState Ty) :
    Outcome (WsConnections × MockState Ty) Unit :=
  let ws := { ws with hash := rootHash sha256 treeHash ws.connections }
  (Context.setCertifiedData defaultHasher ws.hash.1 s).mapState (ws, ·)

/-- `WsConnections::new()`: an empty deque, a zero hash, then `recompute_hash()`. -/
def WsConnections.new (s : MockState Ty) : Outcome (WsConnections × MockState Ty) Unit :=
  WsConnections.recomputeHash sha256 treeHash defaultHasher ⟨[], .zero⟩ s

/-- The block of a clock reading in nanoseconds: `time / 1_000_000`, rounded down to a multiple
of `BLOCK_PERIOD_SECONDS = 3`. -/
def blockOfTime (time : Nat) : Nat := time / 1000000 / 3 * 3

/-- `get_current_block_id()`: the block of `ic::time()`. -/
def getCurrentBlockId (now : Nat) (s : MockState Ty) : Outcome (MockState Ty) Nat :=
  (Context.time now s).bind fun time s => .ok (blockOfTime time) s

/-- The `if` of `send_raw`: unless the entry at index `len - 1` is for `blockId`, push a fresh
entry in front, first popping the back one when the deque is full. -/
def ensureBlock (blockId : Nat) (q : List (Nat × ConnMap)) : Except Panic (List (Nat × ConnMap)) := do
  let connectionsLen := q.length
  let current ← if connectionsLen = 0 then pure false else do
    let e ← dequeIndex q (connectionsLen - 1)
    pure (e.1 == blockId)
  if current then pure q
  else pure ((blockId, ConnMap.empty) ::
    if connectionsLen = maxBlockHeight then q.dropLast else q)

/-- One turn of the `for` loop of `send_raw`: the message goes to the entry at index
`len - 1`. -/
def appendMessage (q : List (Nat × ConnMap)) (message : Nat × RawMessage) :
    Except Panic (List (Nat × ConnMap)) := do
  let i ← usizeSub q.length 1
  let e ← dequeIndex q i
  pure (q.set i (e.1, e.2.push message))

/-- The `for` loop of `send_raw`; a panic leaves the deque as the earlier turns made it. -/
def appendMessages : List (Nat × RawMessage) → List (Nat × ConnMap) →
    Outcome (List (Nat × ConnMap)) Unit
  | [], q => .ok () q
  | m :: ms, q =>
    match appendMessage q m with
    | .ok q => appendMessages ms q
    | .error p => .error p q

/-- `send_raw(messages)`, at clock reading `now`. -/
def WsConnections.sendRaw (now : Nat) (messages : List (Nat × RawMessage)) (ws : WsConnections)
    (s : MockState Ty) : Outcome (WsConnections × MockState Ty) Unit :=
  match getCurrentBlockId now s with
  | .error p s => .error p (ws, s)
  | .ok blockId s =>
    match ensureBlock blockId ws.connections with
    | .error p => .error p (ws, s)
    | .ok q =>
      match appendMessages messages q with
      | .error p q => .error p ({ ws with connections := q }, s)
      | .ok () q => WsConnections.recomputeHash sha256 treeHash defaultHasher
          { ws with connections := q } s

/-- `close_connections(connections)`: every connection given is removed from the tree of every
entry, then the hash is recomputed.  The loop as written does not compile: it iterates
`self.connections` by value behind `&mut self` (E0507) and moves the `connections` iterator in
its first turn (E0382).  This is the loop it evidently means, over every entry in place and
every given connection for each. -/
def WsConnections.closeConnections (connections : List Nat) (ws : WsConnections) (s : MockState Ty) :
    Outcome (WsConnections × MockState Ty) Unit :=
  WsConnections.recomputeHash sha256 treeHash defaultHasher
    { ws with connections := removeConnections connections ws.connections } s

end Model

/-! ## What `send_raw` does to the deque -/

/-- The deque once it has an entry for `blockId` at the back, or a fresh one in front. -/
def placeBlock (blockId : Nat) (q : List (Nat × ConnMap)) : List (Nat × ConnMap) :=
  if q.getLast?.map Prod.fst = some blockId then q
  else (blockId, ConnMap.empty) :: if q.length = maxBlockHeight then q.dropLast else q

/-- The deque with every message pushed, in order, to the back entry. -/
def appendAtBack (messages : List (Nat × RawMessage)) (q : List (Nat × ConnMap)) :
    List (Nat × ConnMap) :=
  match q.getLast? with
  | some e => q.dropLast ++ [(e.1, messages.foldl ConnMap.push e.2)]
  | none => q

theorem placeBlock_ne_nil (blockId : Nat) (q : List (Nat × ConnMap)) : placeBlock blockId q ≠ [] := by
  unfold placeBlock
  split
  · rintro rfl
    simp_all
  · simp

theorem ensureBlock_eq (blockId : Nat) (q : List (Nat × ConnMap)) :
    ensureBlock blockId q = .ok (placeBlock blockId q) := by
  rcases List.eq_nil_or_concat q with rfl | ⟨front, e, rfl⟩
  · simp [ensureBlock, placeBlock, maxBlockHeight]
    rfl
  · rw [List.concat_eq_append]
    have hi : dequeIndex (front ++ [e]) front.length = .ok e := by simp [dequeIndex]
    by_cases hb : e.1 = blockId <;>
      simp [ensureBlock, placeBlock, hi, hb, bind, Except.bind, pure, Except.pure]

theorem appendMessage_append_singleton (front : List (Nat × ConnMap)) (e : Nat × ConnMap)
    (message : Nat × RawMessage) :
    appendMessage (front ++ [e]) message = .ok (front ++ [(e.1, e.2.push message)]) := by
  have hi : dequeIndex (front ++ [e]) front.length = .ok e := by simp [dequeIndex]
  simp [appendMessage, usizeSub, hi, List.set_append_right, bind, Except.bind, Functor.map,
    Except.map, pure, Except.pure]

theorem appendMessages_append_singleton (front : List (Nat × ConnMap)) :
    ∀ (messages : List (Nat × RawMessage)) (e : Nat × ConnMap),
      appendMessages messages (front ++ [e]) = .ok () (front ++ [(e.1, messages.foldl ConnMap.push e.2)])
  | [], _ => rfl
  | m :: ms, e => by
    rw [appendMessages, appendMessage_append_singleton]
    exact appendMessages_append_singleton front ms (e.1, e.2.push m)

/-- The loop on a non-empty deque never panics, and pushes every message to the back entry. -/
theorem appendMessages_eq (messages : List (Nat × RawMessage)) {q : List (Nat × ConnMap)}
    (hq : q ≠ []) : appendMessages messages q = .ok () (appendAtBack messages q) := by
  rcases List.eq_nil_or_concat q with rfl | ⟨front, e, rfl⟩
  · exact absurd rfl hq
  · rw [List.concat_eq_append, appendMessages_append_singleton]
    simp [appendAtBack]

section Model

variable (sha256 : List UInt8 → Hash) (treeHash : ConnMap → Hash)
  (defaultHasher : List UInt8 → UInt64)

theorem setCertifiedData_hash (h : Hash) (s : MockState Ty) :
    ∃ c, Context.setCertifiedData defaultHasher h.1 s = .ok () { s with
      watcher.calledSetCertifiedData := true
      certificate := some c
      certifiedData := some h.1 } := by
  have hb : signBuffer h.1 = .ok h.1 := by simp [signBuffer, h.2]
  simp [Context.setCertifiedData, h.2, sign, hb, Except.map]

/-- `recompute_hash` never panics: it stores the root hash and certifies it. -/
theorem recomputeHash_eq (ws : WsConnections) (s : MockState Ty) :
    ∃ s', ws.recomputeHash sha256 treeHash defaultHasher s =
        .ok () ({ ws with hash := rootHash sha256 treeHash ws.connections }, s') ∧
      s'.certifiedData = some (rootHash sha256 treeHash ws.connections).1 := by
  obtain ⟨c, hc⟩ := setCertifiedData_hash defaultHasher (rootHash sha256 treeHash ws.connections) s
  exact ⟨_, by rw [WsConnections.recomputeHash, hc]; rfl, rfl⟩

/-- **`send_raw` on the deque.**  It never panics: it places the entry for the block of its
clock reading, pushes the messages to the back entry, and certifies the new root hash. -/
theorem sendRaw_eq (now : Nat) (messages : List (Nat × RawMessage)) (ws : WsConnections)
    (s : MockState Ty) :
    ∃ s', ws.sendRaw sha256 treeHash defaultHasher now messages s =
        .ok () (⟨appendAtBack messages (placeBlock (blockOfTime (now % 2 ^ 64)) ws.connections),
          rootHash sha256 treeHash
            (appendAtBack messages (placeBlock (blockOfTime (now % 2 ^ 64)) ws.connections))⟩, s') ∧
      s'.certifiedData = some (rootHash sha256 treeHash
        (appendAtBack messages (placeBlock (blockOfTime (now % 2 ^ 64)) ws.connections))).1 := by
  obtain ⟨s', hs, hcert⟩ := recomputeHash_eq sha256 treeHash defaultHasher
    ⟨appendAtBack messages (placeBlock (blockOfTime (now % 2 ^ 64)) ws.connections), ws.hash⟩
    { s with watcher.calledTime := true }
  refine ⟨s', ?_, hcert⟩
  simp only [WsConnections.sendRaw, getCurrentBlockId, Context.time, Outcome.bind_ok,
    ensureBlock_eq, appendMessages_eq messages (placeBlock_ne_nil _ _)]
  exact hs

/-- `close_connections` never panics: it removes the connections and certifies the new root
hash. -/
theorem closeConnections_eq (connections : List Nat) (ws : WsConnections) (s : MockState Ty) :
    ∃ s', ws.closeConnections sha256 treeHash defaultHasher connections s =
        .ok () (⟨removeConnections connections ws.connections,
          rootHash sha256 treeHash (removeConnections connections ws.connections)⟩, s') ∧
      s'.certifiedData =
        some (rootHash sha256 treeHash (removeConnections connections ws.connections)).1 :=
  recomputeHash_eq sha256 treeHash defaultHasher _ s

end Model

/-! ## The block clock -/

theorem blockOfTime_eq (time : Nat) : blockOfTime time = 3 * (time / 3000000) := by
  rw [blockOfTime, Nat.div_div_eq_div_mul]
  omega

/-- **Block ids count 3-millisecond periods.**  `get_current_block_id()` returns
`3 * (t / 3_000_000)` for the clock reading `t` in nanoseconds.  The id never decreases as the
clock advances, and two readings share a block exactly when they lie in the same 3-millisecond
period; it is the start of the reading's 3-second period, `3 * (t / 3_000_000_000)`, only in
the first 3 milliseconds after the epoch. -/
theorem blockId_counts_milliseconds :
    (∀ (now : Nat) (s : MockState Ty), getCurrentBlockId now s =
        .ok (3 * (now % 2 ^ 64 / 3000000)) { s with watcher.calledTime := true }) ∧
    (∀ t₁ t₂, t₁ ≤ t₂ → blockOfTime t₁ ≤ blockOfTime t₂) ∧
    (∀ t₁ t₂, blockOfTime t₁ = blockOfTime t₂ ↔ t₁ / 3000000 = t₂ / 3000000) ∧
    (∀ t, blockOfTime t = 3 * (t / 3000000000) ↔ t < 3000000) := by
  refine ⟨fun now s => by rw [getCurrentBlockId, Context.time, Outcome.bind_ok, blockOfTime_eq],
    fun t₁ t₂ _ => ?_, fun t₁ t₂ => ?_, fun t => ?_⟩ <;> simp only [blockOfTime_eq] <;> omega

end IcKit
