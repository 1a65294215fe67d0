import IcKit.Handler.Basic

/-!
# Handler/MethodSpec — a scripted method is a fold over its atoms

Read as the cycles it leaves available, each atom is a partial function `MethodAtom.step`:
consuming everything leaves `0`, consuming `n` leaves `a - min n a`, refunding `n` leaves `n`
and fails past `a`.  `Method::perform` is the left fold of `step` from the cycles available
(`perform_eq_fold`), provided no `u64` addition overflows: what it accepts is added to the
balance of the context it runs on, and on the throwaway context of a call, whose balance is
`10^14`, that addition overflows for the largest amounts (`perform_consumeAll_overflows`).
On a context with room for every available cycle no `Method` overflows, whatever its atoms
(`perform_ne_addOverflow`); on the throwaway context that room is `u64::MAX - 10^14` cycles.
-/

namespace IcKit

variable {TypeId : Type} {Ty : TypeId → Type}

namespace MethodAtom

/-- An atom, read as the cycles it leaves available out of `a`; `none` for an over-refund. -/
def step (a : Nat) : MethodAtom → Option Nat
  | .consumeAllCycles => some 0
  | .consumeCycles n => some (a - min n a)
  | .refundCycles n => if n ≤ a then some n else none

/-- The left fold of `step` over a list of atoms. -/
def fold (a : Nat) (atoms : List MethodAtom) : Option Nat := atoms.foldlM step a

theorem step_le {a a' : Nat} : ∀ {x : MethodAtom}, step a x = some a' → a' ≤ a
  | .consumeAllCycles, h => by simp only [step, Option.some.injEq] at h; omega
  | .consumeCycles _, h => by simp only [step, Option.some.injEq] at h; omega
  | .refundCycles _, h => by
    simp only [step] at h
    split at h <;> simp_all

/-- **One atom runs as `step` reads it**, on a `u64` context whose balance has room for every
available cycle; only the cycles, the balance and the watcher's flags change. -/
theorem run_of_step {s : MockState Ty} {x : MethodAtom} {a' : Nat} (hs : s.cycles ≤ u64Max)
    (hb : s.balance + s.cycles ≤ u64Max) (h : step s.cycles x = some a') :
    ∃ s', x.run s = .ok () s' ∧ s'.cycles = a' ∧ s'.balance + a' = s.balance + s.cycles ∧
      s.CyclesOnly s' := by
  cases x with
  | consumeAllCycles =>
    obtain ⟨s', hacc, hc, hbal, hf⟩ := Context.msgCyclesAccept_ok u64Max s hb
    simp only [step, Option.some.injEq] at h
    rw [Nat.min_eq_right hs] at hacc hc hbal
    exact ⟨s', by simp [run, hacc], by omega, by omega, hf⟩
  | consumeCycles n =>
    obtain ⟨s', hacc, hc, hbal, hf⟩ := Context.msgCyclesAccept_ok n s hb
    simp only [step, Option.some.injEq] at h
    have := Nat.min_le_right n s.cycles
    exact ⟨s', by simp [run, hacc], by omega, by omega, hf⟩
  | refundCycles n =>
    simp only [step] at h
    split at h
    · obtain ⟨s₁, havail, hc₁, hb₁, hf₁⟩ := Context.msgCyclesAvailable_eq s
      obtain ⟨s₂, hacc, hc₂, hbal₂, hf₂⟩ :=
        Context.msgCyclesAccept_ok (s.cycles - n) s₁ (by omega)
      rw [hc₁, Nat.min_eq_left (Nat.sub_le _ _)] at hacc hc₂ hbal₂
      refine ⟨s₂, ?_, by simp only [Option.some.injEq] at h; omega,
        by simp only [Option.some.injEq] at h; omega, hf₁.trans hf₂⟩
      simp [run, havail, hacc, show ¬n > s.cycles by omega]
    · simp at h

/-- An atom that `step` rejects panics. -/
theorem run_of_step_eq_none {s : MockState Ty} {x : MethodAtom} (h : step s.cycles x = none) :
    ∃ p s', x.run s = .error p s' := by
  cases x with
  | consumeAllCycles => simp [step] at h
  | consumeCycles => simp [step] at h
  | refundCycles n =>
    simp only [step, ite_eq_right_iff, reduceCtorEq, imp_false] at h
    exact ⟨.cannotRefund n s.cycles, { s with watcher.calledMsgCyclesAvailable := true }, by
      simp only [run, Context.msgCyclesAvailable, Outcome.bind_ok, if_pos (show n > s.cycles by omega)]⟩

/-- **Whatever an atom does when it returns**: it lowers the available cycles, moves what it
takes to the balance, and touches nothing else. -/
theorem run_ok {s s' : MockState Ty} {x : MethodAtom} (h : x.run s = .ok () s') :
    s'.cycles ≤ s.cycles ∧ s'.balance + s'.cycles = s.balance + s.cycles ∧ s.CyclesOnly s' := by
  cases x with
  | consumeAllCycles | consumeCycles =>
    obtain ⟨_, hacc⟩ := Outcome.bind_discard_eq_ok h
    exact Context.msgCyclesAccept_of_ok hacc
  | refundCycles n =>
    obtain ⟨s₁, havail, hc₁, hb₁, hf₁⟩ := Context.msgCyclesAvailable_eq s
    simp only [run, havail, Outcome.bind_ok] at h
    split at h
    · cases h
    · obtain ⟨_, hacc⟩ := Outcome.bind_discard_eq_ok h
      obtain ⟨hc₂, hb₂, hf₂⟩ := Context.msgCyclesAccept_of_ok hacc
      exact ⟨by omega, by omega, hf₁.trans hf₂⟩

/-- **On a context with room, an atom never overflows**: its only panic is an over-refund. -/
theorem run_ne_addOverflow {s s' : MockState Ty} (x : MethodAtom)
    (hb : s.balance + s.cycles ≤ u64Max) : x.run s ≠ .error .addOverflow s' := by
  cases x with
  | consumeAllCycles =>
    obtain ⟨_, hacc, -⟩ := Context.msgCyclesAccept_ok u64Max s hb
    simp [run, hacc]
  | consumeCycles n =>
    obtain ⟨_, hacc, -⟩ := Context.msgCyclesAccept_ok n s hb
    simp [run, hacc]
  | refundCycles n =>
    obtain ⟨s₁, havail, hc₁, hb₁, -⟩ := Context.msgCyclesAvailable_eq s
    obtain ⟨_, hacc, -⟩ := Context.msgCyclesAccept_ok (s.cycles - n) s₁ (by omega)
    simp only [run, havail, Outcome.bind_ok]
    split <;> simp [hacc]

end MethodAtom

namespace Method

/-- The atom loop, when it returns, only moves cycles to the balance. -/
theorem runAtoms_ok : ∀ {atoms : List MethodAtom} {s s' : MockState Ty},
    runAtoms atoms s = .ok () s' →
    s'.cycles ≤ s.cycles ∧ s'.balance + s'.cycles = s.balance + s.cycles ∧ s.CyclesOnly s'
  | [], s, s', h => by
    cases h
    exact ⟨Nat.le_refl _, rfl, MockState.CyclesOnly.refl s⟩
  | x :: xs, s, s', h => by
    obtain ⟨_, s₁, hx, hs⟩ := Outcome.bind_eq_ok h
    obtain ⟨hc₁, hb₁, hf₁⟩ := MethodAtom.run_ok hx
    obtain ⟨hc₂, hb₂, hf₂⟩ := runAtoms_ok hs
    exact ⟨by omega, by omega, hf₁.trans hf₂⟩

/-- **A returning `perform` refunds at most what was available**, leaves the refund available,
and credits the rest to the balance of the context it ran on. -/
theorem perform_ok {m : Method} {c : Nat} {x : List UInt8} {ctx ctx' : Option (MockState Ty)}
    {res : CallResult} {r : Nat} (h : m.perform c x ctx = .ok (res, r) ctx') :
    r ≤ (runContext c ctx).cycles ∧
      ∃ s', ctx' = ctx.map (fun _ => s') ∧ s'.cycles = r ∧
        s'.balance + r = (runContext c ctx).balance + (runContext c ctx).cycles ∧
        (runContext c ctx).CyclesOnly s' := by
  have hatoms : m.performAtoms c ctx = .ok (res, r) ctx' := by
    unfold perform at h
    split at h
    · split at h
      · exact h
      · cases h
    · exact h
  obtain ⟨_, hq, rfl⟩ := Outcome.mapState_eq_ok hatoms
  obtain ⟨_, s₁, hrun, hq⟩ := Outcome.bind_eq_ok hq
  obtain ⟨hc, hb, hf⟩ := runAtoms_ok hrun
  obtain ⟨s₂, havail, hc₂, hb₂, hf₂⟩ := Context.msgCyclesAvailable_eq s₁
  simp only [havail, Outcome.bind_ok] at hq
  cases hq
  exact ⟨hc, _, rfl, hc₂, by omega, hf.trans hf₂⟩

open MethodAtom

/-- **The atom loop is the fold**: it returns exactly when the fold does, leaving its result
available and the sum of balance and available cycles unchanged. -/
theorem runAtoms_of_fold : ∀ (atoms : List MethodAtom) (s : MockState Ty) (r : Nat),
    s.cycles ≤ u64Max → s.balance + s.cycles ≤ u64Max → fold s.cycles atoms = some r →
    ∃ s', runAtoms atoms s = .ok () s' ∧ s'.cycles = r ∧ s'.balance + r = s.balance + s.cycles ∧
      s.CyclesOnly s'
  | [], s, r, _, _, h => by
    simp only [fold, List.foldlM_nil, pure, Option.some.injEq] at h
    exact ⟨s, rfl, h, by rw [h], MockState.CyclesOnly.refl s⟩
  | x :: xs, s, r, hs, hb, h => by
    rw [fold, List.foldlM_cons] at h
    cases hx : step s.cycles x with
    | none => simp [hx] at h
    | some a' =>
      simp only [hx, Option.some_bind] at h
      obtain ⟨s₁, h₁, hc₁, hb₁, hf₁⟩ := run_of_step hs hb hx
      have hle := step_le hx
      obtain ⟨s₂, h₂, hc₂, hb₂, hf₂⟩ :=
        runAtoms_of_fold xs s₁ r (by omega) (by omega) (by rw [hc₁]; exact h)
      exact ⟨s₂, by simp [runAtoms, h₁, h₂], hc₂, by omega, hf₁.trans hf₂⟩

theorem runAtoms_of_fold_eq_none : ∀ (atoms : List MethodAtom) (s : MockState Ty),
    s.cycles ≤ u64Max → s.balance + s.cycles ≤ u64Max → fold s.cycles atoms = none →
    ∃ p s', runAtoms atoms s = .error p s'
  | [], _, _, _, h => by simp [fold, pure] at h
  | x :: xs, s, hs, hb, h => by
    rw [fold, List.foldlM_cons] at h
    cases hx : step s.cycles x with
    | none =>
      obtain ⟨p, s', h₁⟩ := run_of_step_eq_none hx
      exact ⟨p, s', by simp [runAtoms, h₁]⟩
    | some a' =>
      simp only [hx, Option.some_bind] at h
      obtain ⟨s₁, h₁, hc₁, hb₁, -⟩ := run_of_step hs hb hx
      have hle := step_le hx
      obtain ⟨p, s', h₂⟩ :=
        runAtoms_of_fold_eq_none xs s₁ (by omega) (by omega) (by rw [hc₁]; exact h)
      exact ⟨p, s', by simp [runAtoms, h₁, h₂]⟩

theorem fold_le : ∀ (atoms : List MethodAtom) (a r : Nat), fold a atoms = some r → r ≤ a
  | [], a, r, h => by
    simp only [fold, List.foldlM_nil, pure, Option.some.injEq] at h
    omega
  | x :: xs, a, r, h => by
    rw [fold, List.foldlM_cons] at h
    cases hx : step a x with
    | none => simp [hx] at h
    | some a' =>
      simp only [hx, Option.some_bind] at h
      exact Nat.le_trans (fold_le xs a' r h) (step_le hx)

/-- Past the assertion, a successful fold is a successful `perform`. -/
theorem performAtoms_of_fold (m : Method) (c : Nat) (ctx : Option (MockState Ty)) {r : Nat}
    (hs : (runContext c ctx).cycles ≤ u64Max)
    (hb : (runContext c ctx).balance + (runContext c ctx).cycles ≤ u64Max)
    (h : fold (runContext c ctx).cycles m.atoms = some r) :
    ∃ s', m.performAtoms c ctx = .ok (.ok (m.response.getD encodeEmptyArgs), r) (ctx.map fun _ => s') ∧
      s'.cycles = r ∧ s'.balance + r = (runContext c ctx).balance + (runContext c ctx).cycles ∧
      (runContext c ctx).CyclesOnly s' := by
  obtain ⟨s₁, hrun, hc₁, hb₁, hf₁⟩ := runAtoms_of_fold m.atoms _ r hs hb h
  obtain ⟨s₂, havail, hc₂, hb₂, hf₂⟩ := Context.msgCyclesAvailable_eq s₁
  refine ⟨s₂, ?_, by omega, by omega, hf₁.trans hf₂⟩
  simp only [performAtoms, hrun, Outcome.bind_ok, havail, Outcome.mapState_ok, hc₁]

theorem perform_of_args {m : Method} {x : List UInt8} (h : ∀ e, m.expectedArgs = some e → e = x)
    (c : Nat) (ctx : Option (MockState Ty)) : m.perform c x ctx = m.performAtoms c ctx := by
  unfold perform
  split
  · rename_i e he
    rw [if_pos (h e he)]
  · rfl

/-- A successful fold, with the assertion passing, is a successful `perform`. -/
theorem perform_of_fold (m : Method) (c : Nat) (x : List UInt8) (ctx : Option (MockState Ty))
    (hs : (runContext c ctx).cycles ≤ u64Max)
    (hb : (runContext c ctx).balance + (runContext c ctx).cycles ≤ u64Max) (r : Nat)
    (hr : fold (runContext c ctx).cycles m.atoms = some r)
    (hargs : ∀ e, m.expectedArgs = some e → e = x) :
    r ≤ (runContext c ctx).cycles ∧
      ∃ s', m.perform c x ctx =
          .ok (.ok (m.response.getD encodeEmptyArgs), r) (ctx.map fun _ => s') ∧
        s'.cycles = r ∧
        s'.balance = (runContext c ctx).balance + ((runContext c ctx).cycles - r) ∧
        (runContext c ctx).CyclesOnly s' := by
  have hle := fold_le _ _ _ hr
  obtain ⟨s', hp, hc, hbal, hf⟩ := performAtoms_of_fold m c ctx hs hb hr
  exact ⟨hle, s', by rw [perform_of_args hargs, hp], hc, by omega, hf⟩

/-- **`Method::perform` is the fold over its atoms**, on a `u64` context whose balance has room
for every available cycle: it panics exactly when the argument assertion or the fold fails;
otherwise it returns the fixed response (`encode_args(())` if none) with the fold's result `r`
as refund, `r` is at most what was available, `r` is left available, and the balance has grown
by the rest.  Nothing but the cycles, the balance and the watcher's flags changes. -/
theorem perform_eq_fold (m : Method) (c : Nat) (x : List UInt8) (ctx : Option (MockState Ty))
    (hs : (runContext c ctx).cycles ≤ u64Max)
    (hb : (runContext c ctx).balance + (runContext c ctx).cycles ≤ u64Max) :
    ((∃ p ctx', m.perform c x ctx = .error p ctx') ↔
      (∃ e, m.expectedArgs = some e ∧ e ≠ x) ∨ fold (runContext c ctx).cycles m.atoms = none) ∧
    ∀ r, fold (runContext c ctx).cycles m.atoms = some r →
      (∀ e, m.expectedArgs = some e → e = x) →
      r ≤ (runContext c ctx).cycles ∧
      ∃ s', m.perform c x ctx =
          .ok (.ok (m.response.getD encodeEmptyArgs), r) (ctx.map fun _ => s') ∧
        s'.cycles = r ∧
        s'.balance = (runContext c ctx).balance + ((runContext c ctx).cycles - r) ∧
        (runContext c ctx).CyclesOnly s' := by
  refine ⟨⟨fun ⟨p, ctx', hp⟩ => ?_, fun h => ?_⟩, perform_of_fold m c x ctx hs hb⟩
  · by_cases hargs : ∀ e, m.expectedArgs = some e → e = x
    · cases hr : fold (runContext c ctx).cycles m.atoms with
      | none => exact .inr rfl
      | some r =>
        obtain ⟨-, s', hp', -⟩ := perform_of_fold m c x ctx hs hb r hr hargs
        rw [hp'] at hp
        cases hp
    · exact .inl (by simpa using hargs)
  · by_cases hargs : ∀ e, m.expectedArgs = some e → e = x
    · have hnone : fold (runContext c ctx).cycles m.atoms = none :=
        h.resolve_left fun ⟨e, he, hne⟩ => hne (hargs e he)
      obtain ⟨p, s', hrun⟩ := runAtoms_of_fold_eq_none m.atoms _ hs hb hnone
      rw [perform_of_args hargs]
      exact ⟨p, ctx.map fun _ => s', by
        simp only [performAtoms, hrun, Outcome.bind_error, Outcome.mapState_error]⟩
    · simp only [not_forall] at hargs
      obtain ⟨e, he, hne⟩ := hargs
      exact ⟨.argsMismatch e x, ctx, by simp only [perform, he, if_neg hne]⟩

/-- Refunding 30 of a call's 100 cycles on the throwaway context: the fold's refund. -/
theorem perform_refund_thirty :
    (runContext 100 none : MockState UnitStorage).cycles ≤ u64Max ∧
    (runContext 100 none : MockState UnitStorage).balance +
      (runContext 100 none : MockState UnitStorage).cycles ≤ u64Max ∧
    (Method.new.cyclesRefund 30).perform 100 [] (none : Option (MockState UnitStorage)) =
      .ok (.ok encodeEmptyArgs, 30) none :=
  ⟨by decide, by decide,
    ((perform_eq_fold (Method.new.cyclesRefund 30) 100 [] none (by decide) (by decide)).2 30 rfl
      (by simp [Method.new, Method.cyclesRefund])).2.elim fun _ h => h.1⟩

/-- Consuming everything from a call of `u64::MAX` cycles: the fold leaves nothing and
succeeds, but `perform` on the throwaway context (balance `10^14`) overflows crediting them. -/
theorem perform_consumeAll_overflows :
    fold u64Max Method.new.cyclesConsumeAll.atoms = some 0 ∧
    ∃ s, Method.new.cyclesConsumeAll.perform u64Max [] (none : Option (MockState UnitStorage)) =
      .error .addOverflow s :=
  ⟨rfl, _, rfl⟩

/-! ## Room on the throwaway context -/

/-- On a context with room the atom loop never overflows: every atom that returns keeps the
room (`run_ok`), and no atom overflows on it. -/
theorem runAtoms_ne_addOverflow : ∀ {atoms : List MethodAtom} {s s' : MockState Ty},
    s.balance + s.cycles ≤ u64Max → runAtoms atoms s ≠ .error .addOverflow s'
  | [], _, _, _ => nofun
  | x :: _, s, _, hb => by
    rcases hx : x.run s with ⟨_, s₁⟩ | ⟨_, _⟩
    · have hroom := (MethodAtom.run_ok hx).2.1
      simp only [runAtoms, hx, Outcome.bind_ok]
      exact runAtoms_ne_addOverflow (by omega)
    · simp only [runAtoms, hx, Outcome.bind_error]
      rintro ⟨⟩
      exact x.run_ne_addOverflow hb hx

/-- **No `Method` overflows on a context with room**: whatever its atoms and arguments, it
panics only at the argument assertion or an over-refund. -/
theorem perform_ne_addOverflow (m : Method) (c : Nat) (x : List UInt8)
    (ctx : Option (MockState Ty))
    (hb : (runContext c ctx).balance + (runContext c ctx).cycles ≤ u64Max)
    (s : Option (MockState Ty)) : m.perform c x ctx ≠ .error .addOverflow s := by
  have hatoms : m.performAtoms c ctx ≠ .error .addOverflow s := by
    rcases hr : runAtoms m.atoms (runContext c ctx) with ⟨_, _⟩ | ⟨_, _⟩
    · simp [performAtoms, hr, Context.msgCyclesAvailable]
    · simp only [performAtoms, hr, Outcome.bind_error, Outcome.mapState_error]
      rintro ⟨⟩
      exact runAtoms_ne_addOverflow hb hr
  unfold perform
  split
  · split
    · exact hatoms
    · nofun
  · exact hatoms

/-- The throwaway context of a call of `c` cycles: a balance of `10^14`, and `c` available. -/
theorem runContext_none (c : Nat) :
    (runContext c (none : Option (MockState Ty))).balance = 10 ^ 14 ∧
      (runContext c (none : Option (MockState Ty))).cycles = c :=
  ⟨rfl, rfl⟩

/-- Consuming everything on the throwaway context overflows once `10^14 + c` leaves the `u64`
range: the atom accepts `min u64::MAX c`, and crediting it overflows either way. -/
theorem consumeAll_overflows_past_room {c : Nat} (x : List UInt8) (h : u64Max < 10 ^ 14 + c) :
    Method.new.cyclesConsumeAll.perform c x (none : Option (MockState Ty)) =
      .error .addOverflow none := by
  have hacc := Context.msgCyclesAccept_eq u64Max ((MockState.new : MockState Ty).withMsgCycles c)
  rw [if_neg (by simp only [MockState.withMsgCycles, MockState.new]; omega)] at hacc
  simp only [perform, performAtoms, Method.new, cyclesConsumeAll, runAtoms, List.nil_append,
    runContext, Option.getD, MethodAtom.run, hacc, Outcome.bind_error, Outcome.mapState_error,
    Option.map_none']

end Method

end IcKit
