import IcKit.Mock.Effect

/-!
# Mock/Certificate — the certified data and its placeholder certificate

`set_certified_data` and the builder `with_certified_data` store a payload together with the
certificate `MockContext::sign` makes of it.  `sign` copies the payload over 32 zero bytes and
hashes that buffer, so the certificate is a function of the padded buffer: payloads that differ
only by trailing zero bytes get the same certificate (`certificate_ignores_trailing_zeros`).

The two paths agree on what they store but not on what they accept: `set_certified_data`
refuses more than 32 bytes, `with_certified_data` asserts fewer than 32, so a payload of exactly
32 bytes passes one and panics in the other (`certifiedData_paths_differ`).

Along every run the certified data is the last payload certified, of at most 32 bytes, and the
certificate is its signature (`certified_last_payload`).
-/

namespace IcKit

variable {TypeId : Type} {Ty : TypeId → Type}

/-! ## `sign` reads the padded buffer -/

theorem signBuffer_of_le {data : List UInt8} (h : data.length ≤ 32) :
    signBuffer data = .ok (data ++ List.replicate (32 - data.length) 0) := if_pos h

/-- Zero bytes after the payload are invisible to the buffer `sign` hashes. -/
theorem signBuffer_append_zeros (data : List UInt8) (n : Nat) (h : data.length + n ≤ 32) :
    signBuffer (data ++ List.replicate n 0) = signBuffer data := by
  rw [signBuffer_of_le (by simpa using h), signBuffer_of_le (by omega), List.length_append,
    List.length_replicate, List.append_assoc, List.append_replicate_replicate]
  congr 3
  omega

/-- A payload of at most 32 bytes is signed. -/
theorem sign_ok (defaultHasher : List UInt8 → UInt64) {data : List UInt8} (h : data.length ≤ 32) :
    ∃ c, sign defaultHasher data = .ok c := by
  simp [sign, signBuffer_of_le h, Except.map]

/-! ## The two paths -/

section Paths

variable (defaultHasher : List UInt8 → UInt64) (s : MockState Ty)

/-- `set_certified_data`, in one branch: the signing of an admitted payload never fails. -/
theorem setCertifiedData_eq (data : List UInt8) :
    Context.setCertifiedData defaultHasher data s =
      if data.length ≤ 32 then .ok () { s with
        watcher.calledSetCertifiedData := true
        certificate := (sign defaultHasher data).toOption
        certifiedData := some data }
      else .error .certifiedDataTooLong s := by
  unfold Context.setCertifiedData
  by_cases h : data.length ≤ 32
  · obtain ⟨c, hc⟩ := sign_ok defaultHasher h
    rw [if_neg (by omega), if_pos h, hc]
    rfl
  · rw [if_pos (by omega), if_neg h]

/-- `with_certified_data`, in one branch. -/
theorem withCertifiedData_eq (data : List UInt8) :
    MockState.withCertifiedData defaultHasher data s =
      if data.length < 32 then .ok () { s with
        certificate := (sign defaultHasher data).toOption
        certifiedData := some data }
      else .error .certifiedDataNotShort s := by
  unfold MockState.withCertifiedData
  by_cases h : data.length < 32
  · obtain ⟨c, hc⟩ := sign_ok defaultHasher (Nat.le_of_lt h)
    rw [if_pos h, if_pos h, hc]
    rfl
  · rw [if_neg h, if_neg h]

/-- **Trailing zero bytes do not change the certificate.**  Certifying a payload of fewer than
32 bytes and certifying it with `n > 0` zero bytes appended, within 32 bytes, store different
certified data but leave the same `data_certificate()`, whatever the hasher. -/
theorem certificate_ignores_trailing_zeros (data : List UInt8) (n : Nat) (hn : 0 < n)
    (h : data.length + n ≤ 32) :
    ∃ s₁ s₂ c, Context.setCertifiedData defaultHasher data s = .ok () s₁ ∧
      Context.setCertifiedData defaultHasher (data ++ List.replicate n 0) s = .ok () s₂ ∧
      s₁.certifiedData ≠ s₂.certifiedData ∧
      (∃ s', Context.dataCertificate s₁ = .ok (some c) s') ∧
      (∃ s', Context.dataCertificate s₂ = .ok (some c) s') := by
  have hlen : (data ++ List.replicate n 0).length ≤ 32 := by simpa using h
  have hsign : sign defaultHasher (data ++ List.replicate n 0) = sign defaultHasher data := by
    rw [sign, signBuffer_append_zeros data n h, sign]
  obtain ⟨c, hc⟩ := sign_ok defaultHasher (show data.length ≤ 32 by omega)
  rw [setCertifiedData_eq, setCertifiedData_eq, if_pos (show data.length ≤ 32 by omega),
    if_pos hlen, hsign, hc]
  refine ⟨_, _, c, rfl, rfl, fun heq => ?_, ⟨_, rfl⟩, ⟨_, rfl⟩⟩
  have := congrArg List.length (Option.some.inj heq)
  simp only [List.length_append, List.length_replicate] at this
  omega

/-- **The builder and the runtime path disagree at 32 bytes.**  `set_certified_data` takes a
payload of at most 32 bytes, `with_certified_data` one of fewer than 32; on a payload both take
they store it and its signature alike, and `set_certified_data` also marks the watcher.  A
payload of exactly 32 bytes is certified by the one and panics in the other. -/
theorem certifiedData_paths_differ (data : List UInt8) :
    ((∃ s', Context.setCertifiedData defaultHasher data s = .ok () s') ↔ data.length ≤ 32) ∧
    ((∃ s', MockState.withCertifiedData defaultHasher data s = .ok () s') ↔ data.length < 32) ∧
    (data.length < 32 →
      MockState.withCertifiedData defaultHasher data s = .ok () { s with
        certificate := (sign defaultHasher data).toOption
        certifiedData := some data } ∧
      Context.setCertifiedData defaultHasher data s = .ok () { s with
        watcher.calledSetCertifiedData := true
        certificate := (sign defaultHasher data).toOption
        certifiedData := some data }) ∧
    (data.length = 32 →
      MockState.withCertifiedData defaultHasher data s = .error .certifiedDataNotShort s) := by
  rw [setCertifiedData_eq, withCertifiedData_eq]
  refine ⟨⟨fun ⟨_, h⟩ => ?_, fun h => ⟨_, if_pos h⟩⟩, ⟨fun ⟨_, h⟩ => ?_, fun h => ⟨_, if_pos h⟩⟩,
    fun h => ⟨if_pos h, if_pos (Nat.le_of_lt h)⟩, fun h => if_neg (by omega)⟩
  all_goals
    by_contra hn
    rw [if_neg hn] at h
    cases h

end Paths

/-- A stand-in for `DefaultHasher` that reads every byte it is fed: a polynomial hash. -/
def polyHasher (bytes : List UInt8) : UInt64 := bytes.foldl (fun h b => 31 * h + b.toUInt64) 7

/-- With a hasher that tells the bytes `[1, 2, 3]` from `[1, 2, 3, 0]`, the two payloads still
get one certificate: the padding, not the hasher, makes them collide. -/
theorem trailing_zero_same_certificate :
    polyHasher [1, 2, 3] ≠ polyHasher [1, 2, 3, 0] ∧ 0 < 1 ∧ [1, 2, 3].length + 1 ≤ 32 ∧
      ∃ s₁ s₂ c, Context.setCertifiedData polyHasher [1, 2, 3]
          (MockState.new : MockState UnitStorage) = .ok () s₁ ∧
        Context.setCertifiedData polyHasher ([1, 2, 3] ++ List.replicate 1 0)
          (MockState.new : MockState UnitStorage) = .ok () s₂ ∧
        s₁.certifiedData ≠ s₂.certifiedData ∧
        (∃ s', Context.dataCertificate s₁ = .ok (some c) s') ∧
        (∃ s', Context.dataCertificate s₂ = .ok (some c) s') :=
  ⟨by decide, by decide, by decide,
    certificate_ignores_trailing_zeros polyHasher MockState.new [1, 2, 3] 1 (by decide) (by decide)⟩

/-! ## Along a run -/

theorem ContextOp.certifies_eq_some {op : ContextOp Ty} {data : List UInt8}
    (h : op.certifies = some data) : op = .setCertifiedData data ∨ op = .withCertifiedData data := by
  cases op <;> simp only [ContextOp.certifies, Option.some.injEq, reduceCtorEq] at h
  · exact .inl (h ▸ rfl)
  · exact .inr (h ▸ rfl)

/-- The payload the trace certified last, `none` when it certified none. -/
def certifiedAfter (ops : List (ContextOp Ty)) : Option (List UInt8) :=
  (ops.filterMap ContextOp.certifies).getLast?

theorem certifiedAfter_append_singleton (tr : List (ContextOp Ty)) (op : ContextOp Ty) :
    certifiedAfter (tr ++ [op]) = op.certifies.or (certifiedAfter tr) := by
  cases hc : op.certifies <;> simp [certifiedAfter, List.filterMap_append, hc]

section Runs

variable [DecidableEq TypeId] [∀ k, Inhabited (Ty k)] {defaultHasher : List UInt8 → UInt64}
  {op : ContextOp Ty} {ctx ctx' : MockContext Ty}

/-- A returning step that certifies a payload had at most 32 bytes to certify, and stores it
with its signature. -/
theorem step_certifies {data : List UInt8} (hc : op.certifies = some data)
    (h : op.step defaultHasher ctx = .ok () ctx') :
    data.length ≤ 32 ∧ ctx'.certifiedData = some data ∧
      ctx'.certificate = (sign defaultHasher data).toOption := by
  rcases ContextOp.certifies_eq_some hc with rfl | rfl <;> dsimp only [ContextOp.step] at h <;>
    obtain ⟨_, _, hs, rfl⟩ := MockContext.lift_eq_ok h
  · obtain ⟨hl, c, hsc, rfl⟩ := Context.setCertifiedData_of_ok hs
    exact ⟨hl, rfl, by rw [hsc]; rfl⟩
  · obtain ⟨hl, c, hsc, rfl⟩ := MockState.withCertifiedData_of_ok hs
    exact ⟨Nat.le_of_lt hl, rfl, by rw [hsc]; rfl⟩

variable (defaultHasher) in
/-- The certified data is the last payload the trace certified, with its signature as the
certificate, and every payload the trace certified had at most 32 bytes. -/
def CertifiedFollows (tr : List (ContextOp Ty)) (ctx : MockContext Ty) : Prop :=
  ctx.certifiedData = certifiedAfter tr ∧
  ctx.certificate = (certifiedAfter tr).bind (fun data => (sign defaultHasher data).toOption) ∧
  ∀ data ∈ tr.filterMap ContextOp.certifies, data.length ≤ 32

theorem certifiedFollows_step (tr : List (ContextOp Ty)) (hP : CertifiedFollows defaultHasher tr ctx)
    (h : op.step defaultHasher ctx = .ok () ctx') : CertifiedFollows defaultHasher (tr ++ [op]) ctx' := by
  obtain ⟨hd, hcert, hlen⟩ := hP
  rw [CertifiedFollows, certifiedAfter_append_singleton, List.filterMap_append]
  cases hc : op.certifies with
  | none =>
    obtain ⟨hd', hcert'⟩ := (step_moves h).certified hc
    exact ⟨hd'.trans hd, hcert'.trans hcert, by simpa [hc] using hlen⟩
  | some data =>
    obtain ⟨hl, hd', hcert'⟩ := step_certifies hc h
    refine ⟨hd', hcert', fun d hd => ?_⟩
    simp only [List.filterMap_cons, hc, List.filterMap_nil, List.mem_append,
      List.mem_singleton] at hd
    rcases hd with hd | rfl
    · exact hlen d hd
    · exact hl

/-- **The certified slot along every run.**  After any run from `MockContext::new()`, the
certified data is the payload the run certified last, every payload it certified had at most
32 bytes, and `data_certificate()` returns the signature of the certified data. -/
theorem certified_last_payload (ops : List (ContextOp Ty)) (ctx' : MockContext Ty)
    (h : run defaultHasher ops MockContext.new = .ok () ctx') :
    ctx'.certifiedData = certifiedAfter ops ∧
    (∀ data ∈ ops.filterMap ContextOp.certifies, data.length ≤ 32) ∧
    ∃ s, Context.dataCertificate ctx'.toMockState =
      .ok ((certifiedAfter ops).bind fun data => (sign defaultHasher data).toOption) s := by
  obtain ⟨hd, hcert, hlen⟩ : CertifiedFollows defaultHasher ops ctx' :=
    run_preserves (CertifiedFollows defaultHasher) (fun _ => True)
      (fun tr _ _ _ _ hP hs => certifiedFollows_step tr hP hs) ops [] _ _ (fun _ _ => trivial)
      ⟨rfl, rfl, fun _ => nofun⟩ h
  exact ⟨hd, hlen, _, by rw [Context.dataCertificate, hcert]⟩

end Runs

/-- The builder, then the runtime path: the certified data is the second payload. -/
theorem builder_then_set_certifies_last :
    ∃ ctx', run (fun _ => 0) [.withCertifiedData [1], .setCertifiedData [2, 3]]
        (MockContext.new : MockContext UnitStorage) = .ok () ctx' ∧
      ctx'.certifiedData = some [2, 3] := by
  obtain ⟨ctx', h⟩ : ∃ ctx', run (fun _ => 0) [.withCertifiedData [1], .setCertifiedData [2, 3]]
      (MockContext.new : MockContext UnitStorage) = .ok () ctx' := ⟨_, rfl⟩
  exact ⟨ctx', h, (certified_last_payload _ _ h).1⟩

end IcKit
