import IcKit.Ws.Connections

/-!
# Ws/Window — the block log over whole runs

A run makes `WsConnections::new()` and then any `send_raw` and `close_connections` calls on the
canister's context.  `wsRun_eq` says what every run does: it never panics, its deque is the
`WsOp.log` of its calls, and the canister's certified data is the root hash of that deque.

On the log alone: the deque never holds more than `MAX_BLOCK_HEIGHT` entries; at non-decreasing
blocks its block ids decrease from front to back, so the entry a full deque drops is the one
of the smallest block.  But the check for the current block looks at the back of the deque
while new blocks go in front: from the second block on, every block gets a fresh entry on every
`send_raw`, and the messages go to the oldest entry.  New entries go in front, so every entry
but the back one stays empty, and an eviction drops every message held so far.
`close_connections` removes the connections it is given from every entry and keeps the rest.

* `log_length_le`, `log_blocks_sorted`, `log_frontEmpty` — the three invariants of the log.
* `window_bounded` — the bound, the order and the eviction, along every run.
* `messages_only_at_back` — where the messages are, along every run.
* `closeConnections_removes_ids` — what `close_connections` removes, and what it keeps.
* `sendRaw_duplicates_block` — three calls whose blocks repeat and whose messages land in the
  entry of another block.
-/

namespace IcKit

variable {TypeId : Type} {Ty : TypeId → Type}

/-- A call on `WsConnections`, with the clock reading a `send_raw` is made at. -/
inductive WsOp where
  | sendRaw (now : Nat) (messages : List (Nat × RawMessage))
  | closeConnections (connections : List Nat)

namespace WsOp

/-- The block a `send_raw` is made at. -/
def blockId : WsOp → Option Nat
  | .sendRaw now _ => some (blockOfTime (now % 2 ^ 64))
  | .closeConnections _ => none

/-- What the call does to the deque. -/
def log (q : List (Nat × ConnMap)) : WsOp → List (Nat × ConnMap)
  | .sendRaw now messages => appendAtBack messages (placeBlock (blockOfTime (now % 2 ^ 64)) q)
  | .closeConnections ids => removeConnections ids q

section Model

variable (sha256 : List UInt8 → Hash) (treeHash : ConnMap → Hash)
  (defaultHasher : List UInt8 → UInt64)

/-- One call, on the connections and the canister's context. -/
def step : WsOp → WsConnections × MockState Ty → Outcome (WsConnections × MockState Ty) Unit
  | .sendRaw now messages, (ws, s) => ws.sendRaw sha256 treeHash defaultHasher now messages s
  | .closeConnections connections, (ws, s) =>
    ws.closeConnections sha256 treeHash defaultHasher connections s

/-- The calls one after another; the first panic ends the run. -/
def run : List WsOp → WsConnections × MockState Ty → Outcome (WsConnections × MockState Ty) Unit
  | [], st => .ok () st
  | op :: ops, st => Outcome.bind (step sha256 treeHash defaultHasher op st) fun _ st =>
    run ops st

end Model

end WsOp

section Model

variable (sha256 : List UInt8 → Hash) (treeHash : ConnMap → Hash)
  (defaultHasher : List UInt8 → UInt64)

/-- `WsConnections::new()` on the canister's context `s`, then the calls. -/
def wsRun (ops : List WsOp) (s : MockState Ty) : Outcome (WsConnections × MockState Ty) Unit :=
  Outcome.bind (WsConnections.new sha256 treeHash defaultHasher s) fun _ st =>
    WsOp.run sha256 treeHash defaultHasher ops st

/-- The root hash is that of the deque, and it is the canister's certified data. -/
def Published (ws : WsConnections) (s : MockState Ty) : Prop :=
  ws.hash = rootHash sha256 treeHash ws.connections ∧ s.certifiedData = some ws.hash.1

theorem step_eq (op : WsOp) (ws : WsConnections) (s : MockState Ty) :
    ∃ ws' s', WsOp.step sha256 treeHash defaultHasher op (ws, s) = .ok () (ws', s') ∧
      ws'.connections = WsOp.log ws.connections op ∧ Published sha256 treeHash ws' s' := by
  cases op with
  | sendRaw now messages =>
    obtain ⟨s', h, hc⟩ := sendRaw_eq sha256 treeHash defaultHasher now messages ws s
    exact ⟨_, s', h, rfl, rfl, hc⟩
  | closeConnections connections =>
    obtain ⟨s', h, hc⟩ := closeConnections_eq sha256 treeHash defaultHasher connections ws s
    exact ⟨_, s', h, rfl, rfl, hc⟩

theorem run_eq : ∀ (ops : List WsOp) (ws : WsConnections) (s : MockState Ty),
    Published sha256 treeHash ws s →
    ∃ ws' s', WsOp.run sha256 treeHash defaultHasher ops (ws, s) = .ok () (ws', s') ∧
      ws'.connections = ops.foldl WsOp.log ws.connections ∧ Published sha256 treeHash ws' s'
  | [], ws, s, hp => ⟨ws, s, rfl, rfl, hp⟩
  | op :: ops, ws, s, _ => by
    obtain ⟨ws₁, s₁, h₁, hq₁, hp₁⟩ := step_eq sha256 treeHash defaultHasher op ws s
    obtain ⟨ws', s', h, hq, hp⟩ := run_eq ops ws₁ s₁ hp₁
    refine ⟨ws', s', ?_, by rw [hq, hq₁]; rfl, hp⟩
    simp only [WsOp.run, h₁, Outcome.bind_ok, h]

/-- **A run on the deque.**  No run panics; its deque is the log of its calls; its root hash is
that of the deque and is the canister's certified data. -/
theorem wsRun_eq (ops : List WsOp) (s : MockState Ty) :
    ∃ ws s', wsRun sha256 treeHash defaultHasher ops s = .ok () (ws, s') ∧
      ws.connections = ops.foldl WsOp.log [] ∧ Published sha256 treeHash ws s' := by
  obtain ⟨s₀, h₀, hc₀⟩ := recomputeHash_eq sha256 treeHash defaultHasher ⟨[], .zero⟩ s
  obtain ⟨ws, s', h, hq, hp⟩ := run_eq sha256 treeHash defaultHasher ops
    ⟨[], rootHash sha256 treeHash []⟩ s₀ ⟨rfl, hc₀⟩
  exact ⟨ws, s', by rw [wsRun, WsConnections.new, h₀, Outcome.bind_ok, h], hq, hp⟩

end Model

/-! ## The log -/

section Log

variable {q : List (Nat × ConnMap)} {b : Nat}

@[simp] theorem map_fst_appendAtBack (messages : List (Nat × RawMessage)) (q : List (Nat × ConnMap)) :
    (appendAtBack messages q).map Prod.fst = q.map Prod.fst := by
  rcases List.eq_nil_or_concat q with rfl | ⟨front, e, rfl⟩
  · rfl
  · simp [appendAtBack]

@[simp] theorem map_fst_removeConnections (ids : List Nat) (q : List (Nat × ConnMap)) :
    (removeConnections ids q).map Prod.fst = q.map Prod.fst := by
  simp [removeConnections, Function.comp_def]

@[simp] theorem length_appendAtBack (messages : List (Nat × RawMessage)) (q : List (Nat × ConnMap)) :
    (appendAtBack messages q).length = q.length := by
  rw [← List.length_map _ Prod.fst, map_fst_appendAtBack, List.length_map]

/-- The block ids of the deque once the entry for `b` is placed: a fresh `b` in front, unless
the back entry is for `b`, minus the back one when the deque was full. -/
theorem map_fst_placeBlock (b : Nat) (q : List (Nat × ConnMap)) :
    (placeBlock b q).map Prod.fst =
      if (q.map Prod.fst).getLast? = some b then q.map Prod.fst
      else b :: if q.length = maxBlockHeight then (q.map Prod.fst).dropLast else q.map Prod.fst := by
  unfold placeBlock
  rw [List.getLast?_map]
  split
  · rfl
  · split <;> simp [List.map_dropLast]

theorem length_placeBlock_le (hq : q.length ≤ maxBlockHeight) :
    (placeBlock b q).length ≤ maxBlockHeight := by
  have h32 : 0 < maxBlockHeight := by decide
  unfold placeBlock
  split
  · exact hq
  · split <;> simp only [List.length_cons, List.length_dropLast] <;> omega

/-- **The deque never holds more than `MAX_BLOCK_HEIGHT` entries.** -/
theorem log_length_le : ∀ (ops : List WsOp) (q : List (Nat × ConnMap)),
    q.length ≤ maxBlockHeight → (ops.foldl WsOp.log q).length ≤ maxBlockHeight
  | [], _, hq => hq
  | .sendRaw _ _ :: ops, q, hq => log_length_le ops _ (by
      simp only [WsOp.log, length_appendAtBack]
      exact length_placeBlock_le hq)
  | .closeConnections _ :: ops, q, hq => log_length_le ops _ (by
      rwa [WsOp.log, removeConnections, List.length_map])

/-- In a list of decreasing numbers, the last is the least. -/
theorem getLast?_le_of_pairwise {l : List Nat} (hl : l.Pairwise (· ≥ ·)) :
    ∀ x ∈ l, ∀ y ∈ l.getLast?, y ≤ x := by
  rcases List.eq_nil_or_concat l with rfl | ⟨front, y, rfl⟩
  · simp
  · rw [List.concat_eq_append] at hl ⊢
    rw [List.pairwise_append] at hl
    intro x hx y' hy'
    rw [List.getLast?_concat, Option.mem_def, Option.some.injEq] at hy'
    subst hy'
    rcases List.mem_append.1 hx with hx | hx
    · exact hl.2.2 x hx y (List.mem_singleton_self y)
    · exact Nat.le_of_eq (List.mem_singleton.1 hx).symm

theorem placeBlock_sorted (hs : (q.map Prod.fst).Pairwise (· ≥ ·))
    (hb : ∀ x ∈ q.map Prod.fst, x ≤ b) : ((placeBlock b q).map Prod.fst).Pairwise (· ≥ ·) := by
  rw [map_fst_placeBlock]
  split
  · exact hs
  · have hs' : ((if q.length = maxBlockHeight then (q.map Prod.fst).dropLast else q.map Prod.fst)).Sublist
        (q.map Prod.fst) := by
      split
      · exact List.dropLast_sublist _
      · exact List.Sublist.refl _
    exact List.Pairwise.cons (fun x hx => hb x (hs'.subset hx)) (hs.sublist hs')

theorem mem_placeBlock {x : Nat} (hx : x ∈ (placeBlock b q).map Prod.fst) :
    x = b ∨ x ∈ q.map Prod.fst := by
  rw [map_fst_placeBlock] at hx
  split at hx
  · exact .inr hx
  · rcases List.mem_cons.1 hx with rfl | hx
    · exact .inl rfl
    · split at hx
      · exact .inr (List.dropLast_subset _ hx)
      · exact .inr hx

/-- **At non-decreasing blocks, the block ids of the deque decrease from front to back.** -/
theorem log_blocks_sorted : ∀ (ops : List WsOp) (q : List (Nat × ConnMap)),
    (ops.filterMap WsOp.blockId).Pairwise (· ≤ ·) → (q.map Prod.fst).Pairwise (· ≥ ·) →
    (∀ x ∈ q.map Prod.fst, ∀ b ∈ ops.filterMap WsOp.blockId, x ≤ b) →
    ((ops.foldl WsOp.log q).map Prod.fst).Pairwise (· ≥ ·)
  | [], _, _, hs, _ => hs
  | .closeConnections _ :: ops, q, hmono, hs, hb => log_blocks_sorted ops _ hmono
      (by rwa [WsOp.log, map_fst_removeConnections])
      (by rwa [WsOp.log, map_fst_removeConnections])
  | .sendRaw now messages :: ops, q, hmono, hs, hb => by
    simp only [List.filterMap_cons, WsOp.blockId, List.pairwise_cons, List.mem_cons,
      forall_eq_or_imp] at hmono hb
    refine log_blocks_sorted ops _ hmono.2 ?_ fun x hx b hb' => ?_
    · rw [WsOp.log, map_fst_appendAtBack]
      exact placeBlock_sorted hs fun x hx => (hb x hx).1
    · rw [WsOp.log, map_fst_appendAtBack] at hx
      rcases mem_placeBlock hx with rfl | hx
      · exact hmono.1 b hb'
      · exact (hb x hx).2 b hb'

/-! ## Where the messages go -/

/-- Every entry of the deque but the back one holds no message. -/
def FrontEmpty (q : List (Nat × ConnMap)) : Prop := ∀ e ∈ q.dropLast, e.2 = ConnMap.empty

theorem dropLast_appendAtBack (messages : List (Nat × RawMessage)) (q : List (Nat × ConnMap)) :
    (appendAtBack messages q).dropLast = q.dropLast := by
  unfold appendAtBack
  split <;> simp

theorem getLast?_appendAtBack (messages : List (Nat × RawMessage)) (q : List (Nat × ConnMap)) :
    (appendAtBack messages q).getLast?.map Prod.snd =
      q.getLast?.map fun e => messages.foldl ConnMap.push e.2 := by
  unfold appendAtBack
  split <;> simp_all

theorem mem_dropLast_cons {α : Type} {a x : α} {l : List α} (h : x ∈ (a :: l).dropLast) :
    x = a ∨ x ∈ l.dropLast := by
  cases l with
  | nil => simp at h
  | cons y l => exact List.mem_cons.1 h

/-- A fresh entry goes in front, so the entries before the back stay empty. -/
theorem placeBlock_frontEmpty (hq : FrontEmpty q) : FrontEmpty (placeBlock b q) := by
  unfold placeBlock
  split
  · exact hq
  · intro e he
    rcases mem_dropLast_cons he with rfl | he
    · rfl
    · split at he
      · exact hq e (List.dropLast_subset _ he)
      · exact hq e he

/-- Removing connections keeps an empty entry empty. -/
theorem removeConnections_frontEmpty (ids : List Nat) (hq : FrontEmpty q) :
    FrontEmpty (removeConnections ids q) := by
  intro e he
  rw [removeConnections, ← List.map_dropLast] at he
  obtain ⟨e₀, he₀, rfl⟩ := List.mem_map.1 he
  funext k
  dsimp only
  rw [ConnMap.foldl_remove_apply, hq e₀ he₀]
  split <;> rfl

/-- **Only the back entry ever holds messages.** -/
theorem log_frontEmpty : ∀ (ops : List WsOp) (q : List (Nat × ConnMap)),
    FrontEmpty q → FrontEmpty (ops.foldl WsOp.log q)
  | [], _, hq => hq
  | .sendRaw _ messages :: ops, q, hq => log_frontEmpty ops _ fun e he => by
      rw [WsOp.log, dropLast_appendAtBack] at he
      exact placeBlock_frontEmpty hq e he
  | .closeConnections ids :: ops, q, hq => log_frontEmpty ops _ (removeConnections_frontEmpty ids hq)

/-- A `send_raw` that evicts from a full deque drops the back entry, the one that held every
message: the deque is left with the messages of this call only. -/
theorem evict_back_messages (messages : List (Nat × RawMessage)) (hq : FrontEmpty q)
    (hfull : q.length = maxBlockHeight) (hback : (q.map Prod.fst).getLast? ≠ some b) :
    (appendAtBack messages (placeBlock b q)).getLast?.map Prod.snd =
      some (messages.foldl ConnMap.push ConnMap.empty) := by
  rw [List.getLast?_map] at hback
  rw [placeBlock, if_neg hback, if_pos hfull, getLast?_appendAtBack, List.getLast?_cons]
  cases hl : q.dropLast.getLast? with
  | none => rfl
  | some e => simp [hq e (List.mem_of_getLast?_eq_some hl)]

end Log

section Model

variable (sha256 : List UInt8 → Hash) (treeHash : ConnMap → Hash)
  (defaultHasher : List UInt8 → UInt64)

/-- **The bounded window over whole runs.**  Make `WsConnections::new()` and any calls, the
`send_raw` ones at non-decreasing blocks.  The run never panics, so no `send_raw` indexes
outside the deque.  After it the deque holds at most `MAX_BLOCK_HEIGHT` entries, their blocks
decrease from front to back, and the next `send_raw` returns too.  When that call adds an entry
to a full deque, it drops exactly one, the back one, whose block is the smallest. -/
theorem window_bounded (s : MockState Ty) (ops : List WsOp)
    (hmono : (ops.filterMap WsOp.blockId).Pairwise (· ≤ ·)) :
    ∃ ws s', wsRun sha256 treeHash defaultHasher ops s = .ok () (ws, s') ∧
      ws.connections.length ≤ maxBlockHeight ∧
      (ws.connections.map Prod.fst).Pairwise (· ≥ ·) ∧
      ∀ now messages, ∃ ws' s'',
        ws.sendRaw sha256 treeHash defaultHasher now messages s' = .ok () (ws', s'') ∧
        (ws.connections.length = maxBlockHeight →
          (ws.connections.map Prod.fst).getLast? ≠ some (blockOfTime (now % 2 ^ 64)) →
          ws'.connections.map Prod.fst =
              blockOfTime (now % 2 ^ 64) :: (ws.connections.map Prod.fst).dropLast ∧
            ∀ x ∈ ws.connections.map Prod.fst, ∀ y ∈ (ws.connections.map Prod.fst).getLast?,
              y ≤ x) := by
  obtain ⟨ws, s', h, hq, -⟩ := wsRun_eq sha256 treeHash defaultHasher ops s
  have hsorted : (ws.connections.map Prod.fst).Pairwise (· ≥ ·) := by
    rw [hq]
    exact log_blocks_sorted ops [] hmono List.Pairwise.nil (by simp)
  refine ⟨ws, s', h, hq ▸ log_length_le ops [] (by simp [maxBlockHeight]), hsorted,
    fun now messages => ?_⟩
  obtain ⟨s'', h', -⟩ := sendRaw_eq sha256 treeHash defaultHasher now messages ws s'
  refine ⟨_, s'', h', fun hfull hback => ⟨?_, getLast?_le_of_pairwise hsorted⟩⟩
  simp only [map_fst_appendAtBack, map_fst_placeBlock, if_neg hback, if_pos hfull]

/-- Thirty-two `send_raw` calls, at the blocks `0, 3, …, 93`. -/
def fillWindow : List WsOp := (List.range 32).map fun j => .sendRaw (3000000 * j) []

set_option maxRecDepth 2000 in
/-- Thirty-two calls at the blocks `0, 3, …, 93`, every digest zero, fill the deque; a call at
block `96` then drops the entry of block `0`, the smallest, and puts its own in front. -/
theorem window_fills_then_evicts :
    ∃ ws s', wsRun (fun _ => .zero) (fun _ => .zero) (fun _ => 0) fillWindow
        (MockState.new : MockState UnitStorage) = .ok () (ws, s') ∧
      ws.connections.length = maxBlockHeight ∧ (ws.connections.map Prod.fst).getLast? = some 0 ∧
      ∃ ws' s'', ws.sendRaw (fun _ => .zero) (fun _ => .zero) (fun _ => 0) 96000000 [] s' =
          .ok () (ws', s'') ∧
        ws'.connections.map Prod.fst = 96 :: (ws.connections.map Prod.fst).dropLast := by
  obtain ⟨ws, s', h, -, -, hnext⟩ := window_bounded (fun _ => .zero) (fun _ => .zero) (fun _ => 0)
    (MockState.new : MockState UnitStorage) fillWindow (by decide)
  obtain ⟨ws₀, s₀, h₀, hq, -⟩ := wsRun_eq (fun _ => .zero) (fun _ => .zero) (fun _ => 0)
    fillWindow (MockState.new : MockState UnitStorage)
  rw [h] at h₀
  cases h₀
  have hblocks : ws.connections.map Prod.fst = (List.range 32).reverse.map (3 * ·) := by
    rw [hq]
    decide
  have hfull : ws.connections.length = maxBlockHeight := by
    rw [← List.length_map _ Prod.fst, hblocks]
    rfl
  have hlast : (ws.connections.map Prod.fst).getLast? = some 0 := by
    rw [hblocks]
    rfl
  obtain ⟨ws', s'', h', hevict⟩ := hnext 96000000 []
  exact ⟨ws, s', h, hfull, hlast, ws', s'', h',
    (hevict hfull (by rw [hlast]; decide)).1⟩

/-- **The root digest is recomputed after every call and published.**  After any run, the
hash `WsConnections` holds is the root hash of its deque, and it is the canister's certified
data. -/
theorem digest_certified (ops : List WsOp) (s : MockState Ty) :
    ∃ ws s', wsRun sha256 treeHash defaultHasher ops s = .ok () (ws, s') ∧
      ws.hash = rootHash sha256 treeHash ws.connections ∧ s'.certifiedData = some ws.hash.1 := by
  obtain ⟨ws, s', h, -, hp⟩ := wsRun_eq sha256 treeHash defaultHasher ops s
  exact ⟨ws, s', h, hp⟩

/-- **The messages sit in the back entry only.**  After any run, every entry of the deque but
the back one holds no message: messages go to the back entry and new blocks in front.  So a
`send_raw` that evicts from a full deque drops the entry holding every message so far, and
leaves only its own. -/
theorem messages_only_at_back (ops : List WsOp) (s : MockState Ty) :
    ∃ ws s', wsRun sha256 treeHash defaultHasher ops s = .ok () (ws, s') ∧
      FrontEmpty ws.connections ∧
      ∀ now messages, ws.connections.length = maxBlockHeight →
        (ws.connections.map Prod.fst).getLast? ≠ some (blockOfTime (now % 2 ^ 64)) →
        ∃ ws' s'', ws.sendRaw sha256 treeHash defaultHasher now messages s' = .ok () (ws', s'') ∧
          FrontEmpty ws'.connections ∧
          ws'.connections.getLast?.map Prod.snd = some (messages.foldl ConnMap.push ConnMap.empty) := by
  obtain ⟨ws, s', h, hq, -⟩ := wsRun_eq sha256 treeHash defaultHasher ops s
  have hfront : FrontEmpty ws.connections := hq ▸ log_frontEmpty ops [] (by simp [FrontEmpty])
  refine ⟨ws, s', h, hfront, fun now messages hfull hback => ?_⟩
  obtain ⟨s'', h', -⟩ := sendRaw_eq sha256 treeHash defaultHasher now messages ws s'
  exact ⟨_, s'', h', log_frontEmpty [.sendRaw now messages] _ hfront,
    evict_back_messages messages hfront hfull hback⟩

/-- Three calls, the second and third one block after the first: the deque holds two entries
for the later block, and the message of the second call sits in the entry of the first. -/
theorem sendRaw_duplicates_block (s : MockState Ty) :
    ∃ ws s', wsRun sha256 treeHash defaultHasher
        [.sendRaw 1650000000000000000 [], .sendRaw 1650000000003000000 [(7, [1])],
          .sendRaw 1650000000003000000 []] s = .ok () (ws, s') ∧
      ws.connections.map Prod.fst = [1650000000003, 1650000000003, 1650000000000] ∧
      ws.connections.map (fun e => e.2 7) = [[], [], [[1]]] := by
  obtain ⟨ws, s', h, hq, -⟩ := wsRun_eq sha256 treeHash defaultHasher
    [.sendRaw 1650000000000000000 [], .sendRaw 1650000000003000000 [(7, [1])],
      .sendRaw 1650000000003000000 []] s
  exact ⟨ws, s', h, by rw [hq]; rfl, by rw [hq]; rfl⟩

end Model

end IcKit
