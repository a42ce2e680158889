import Xv6Raid.Spec.Parity

/-!
The RAID4 and RAID5 entry points on a quiet, wired structure with at most one
invalid disk: `raid4read`, `raid5read`, `raid4write`, `raid5write`, the parity
case of `raidrepair` and `setraidtype` for the two levels. Each lemma gives the
call's result outright from the lemmas of `Spec.Parity`. A read returns the
block itself or its reconstruction from the other disks; a write stores the
block by `stripeWrite` and marks its cluster loaded; a repair writes into the
failed disk the exclusive-or of the others on every loaded stripe.
-/

namespace Xv6Raid

open XorSum RaidState

variable (c : Config)

section Place

variable {x : Nat}

theorem raidblockn_parity {m : RAIDMeta} (ht : m.type = .RAID4 ∨ m.type = .RAID5) :
    raidblockn c m = diskblockn * (c.DISKS - 1) := by
  rcases ht with ht | ht <;> simp [raidblockn, ht]

theorem stripeOf_lt_of_lt {x : Nat} (hx : x < diskblockn * (c.DISKS - 1)) :
    stripeOf c x < diskblockn :=
  Nat.div_lt_of_lt_mul (by rwa [Nat.mul_comm] at hx)

theorem stripeOf_lt {m : RAIDMeta} {x : Int} (ht : m.type = .RAID4 ∨ m.type = .RAID5)
    (h0 : 0 ≤ x) (hx : x < raidblockn c m) :
    2 ≤ c.DISKS ∧ stripeOf c x.toNat < diskblockn := by
  rw [raidblockn_parity c ht] at hx
  have hD : c.DISKS - 1 ≠ 0 := by
    intro h
    rw [h] at hx
    omega
  exact ⟨by omega, stripeOf_lt_of_lt c (by omega)⟩

theorem raid5parity_lt : raid5parity c x < c.DISKS :=
  Nat.mod_lt _ c.one_le_DISKS

theorem raid5disk_lt : raid5disk c x < c.DISKS :=
  Nat.mod_lt _ c.one_le_DISKS

/-- The data disk of a RAID5 block is never the parity disk of its stripe:
it is `1..DISKS-1` places after it. -/
theorem raid5disk_ne_parity (h2 : 2 ≤ c.DISKS) : raid5disk c x ≠ raid5parity c x := by
  have hp := raid5parity_lt c (x := x)
  have hk : x % (c.DISKS - 1) < c.DISKS - 1 := Nat.mod_lt _ (by omega)
  unfold raid5disk
  by_cases hlt : raid5parity c x + 1 + x % (c.DISKS - 1) < c.DISKS
  · rw [Nat.mod_eq_of_lt hlt]
    omega
  · rw [Nat.mod_eq_sub_mod (by omega), Nat.mod_eq_of_lt (by omega)]
    omega

end Place

section Read

variable {s : RaidState} {d st : Nat}

/-- The read of a valid disk, shared by `raid4read` and `raid5read`. -/
theorem read_valid_path (hl : ∀ i < c.DISKS, (s.raidmeta.diskinfo i).lock = ⟨false⟩)
    (hd : d < c.DISKS) (hst : st ≤ diskblockn) :
    (do
      let s ← acquireDiskLock d s
      let data ← read_block c (d + 1) st s
      pure (0, data, releaseDiskLock d s) : Except Fault (UInt64 × Block × RaidState)) =
      .ok (0, col s st d, s) := by
  have hr : ∀ u : RaidState, read_block c (d + 1) st u = .ok (col u st d) :=
    fun _ => read_block_ok c ⟨by omega, by omega, hst⟩
  simp only [acquireDiskLock_free (hl d hd), Except.ok_bind, hr, col_setDiskinfo,
    releaseDiskLock_acquired (hl d hd), Except.pure_eq_ok]

/-- The read of the invalid disk, rebuilt from the others with every disk lock
held. -/
theorem read_invalid_path (hw : Wiring c s.raidmeta)
    (hl : ∀ i < c.DISKS, (s.raidmeta.diskinfo i).lock = ⟨false⟩) (hst : st ≤ diskblockn) :
    (do
      let s ← acquireDiskLocks (List.range c.DISKS) s
      let data ← xorothers c d st s
      pure (0, data, releaseDiskLocks (List.range c.DISKS) s) :
        Except Fault (UInt64 × Block × RaidState)) =
      .ok (0, xorSum (col s st) (others c d), s) := by
  have hfree : ∀ i ∈ List.range c.DISKS, (s.raidmeta.diskinfo i).lock = ⟨false⟩ :=
    fun i hi => hl i (List.mem_range.mp hi)
  simp only [acquireDiskLocks_free List.nodup_range hfree, Except.ok_bind,
    xorothers_eq c (hw.setLocks c _ _) d hst, col_setLocks, releaseDiskLocks_eq, setLocks_setLocks,
    setLocks_of_forall hfree, Except.pure_eq_ok]

/-- `raid5read(x)` in range returns what the disks give for the block: the
block on its data disk, or its reconstruction when that disk is invalid. -/
theorem raid5read_spec {x : Int} (data : Block) (hw : Wiring c s.raidmeta)
    (hl : ∀ i < c.DISKS, (s.raidmeta.diskinfo i).lock = ⟨false⟩) (ht : s.raidmeta.type = .RAID5)
    (hone : AtMostOneInvalid c s.raidmeta) (h0 : 0 ≤ x) (hx : x < raidblockn c s.raidmeta) :
    raid5read c x data s = .ok (0, eff c s (raid5disk c x.toNat) (stripeOf c x.toNat), s) := by
  obtain ⟨h2, hst⟩ := stripeOf_lt c (.inr ht) h0 hx
  have hrange : ¬ outofrange c x s := by simp only [outofrange]; omega
  have hd := raid5disk_lt c (x := x.toNat)
  simp only [raid5read, ht, ne_eq, not_true_eq_false, if_false, hrange, cdiv, cmod,
    show c.DISKS - 1 ≠ 0 by omega, Except.ok_bind]
  rw [show (x.toNat / (c.DISKS - 1) % c.DISKS + 1 + x.toNat % (c.DISKS - 1)) % c.DISKS =
    raid5disk c x.toNat from rfl, show x.toNat / (c.DISKS - 1) = stripeOf c x.toNat from rfl]
  simp only [diskinfoAt, Nat.le_of_lt hd, if_true, eff]
  by_cases hv : (s.raidmeta.diskinfo (raid5disk c x.toNat)).valid
  · simp only [Except.ok_bind, hv, Bool.not_true, Bool.false_eq_true, if_false]
    exact read_valid_path c hl hd (Nat.le_of_lt hst)
  · simp only [Except.ok_bind, hv, Bool.not_false, if_true, Bool.false_eq_true, if_false,
      readinvalidraid5, otherinvalid_eq_false c hone hd (Bool.eq_false_iff.mpr hv)]
    exact read_invalid_path c hw hl (Nat.le_of_lt hst)

theorem raid4read_spec {x : Int} (data : Block) (hw : Wiring c s.raidmeta)
    (hl : ∀ i < c.DISKS, (s.raidmeta.diskinfo i).lock = ⟨false⟩) (ht : s.raidmeta.type = .RAID4)
    (hone : AtMostOneInvalid c s.raidmeta) (h0 : 0 ≤ x) (hx : x < raidblockn c s.raidmeta) :
    raid4read c x data s =
      .ok (0, eff c s (x.toNat % (c.DISKS - 1)) (stripeOf c x.toNat), s) := by
  obtain ⟨h2, hst⟩ := stripeOf_lt c (.inl ht) h0 hx
  have hrange : ¬ outofrange c x s := by simp only [outofrange]; omega
  have hd : x.toNat % (c.DISKS - 1) < c.DISKS := by
    have := Nat.mod_lt x.toNat (show 0 < c.DISKS - 1 by omega)
    omega
  simp only [raid4read, ht, ne_eq, not_true_eq_false, if_false, hrange, cdiv, cmod,
    show c.DISKS - 1 ≠ 0 by omega, Except.ok_bind]
  rw [show x.toNat / (c.DISKS - 1) = stripeOf c x.toNat from rfl]
  simp only [diskinfoAt, Nat.le_of_lt hd, if_true, eff]
  by_cases hv : (s.raidmeta.diskinfo (x.toNat % (c.DISKS - 1))).valid
  · simp only [Except.ok_bind, hv, Bool.not_true, Bool.false_eq_true, if_false]
    exact read_valid_path c hl hd (Nat.le_of_lt hst)
  · simp only [Except.ok_bind, hv, Bool.not_false, if_true, Bool.false_eq_true, if_false,
      readinvalidraid4, otherinvalid_eq_false c hone hd (Bool.eq_false_iff.mpr hv)]
    exact read_invalid_path c hw hl (Nat.le_of_lt hst)

end Read

section Write

/-- The body the two writers share once the block is located: enter through
`repairlock`, load the cluster on its first write under `clusterlock`, store
the block and leave. With the loader and the store given by their effect, the
body stores the block, marks the cluster loaded and leaves every lock and
counter as it found them. -/
theorem writer_body {s : RaidState} {k : Nat} {L : Nat → RaidState → Except Fault RaidState}
    {U : RaidState → Except Fault RaidState} {R : Nat → Nat → Block} (hq : Quiet s.raidmeta)
    (hk : k < NCLUSTERS)
    (hL : s.raidmeta.data.raid4.cluster_loaded k = false → ∀ u : RaidState,
      u.raidmeta.type = s.raidmeta.type → u.raidmeta.diskinfo = s.raidmeta.diskinfo →
      u.disks = s.disks →
      ∃ w, L k u = .ok w ∧ w.raidmeta = (setclusterloaded k u).raidmeta ∧ DataEq w.disks u.disks)
    (hU : ∀ w : RaidState, w.raidmeta.diskinfo = s.raidmeta.diskinfo → DataEq w.disks s.disks →
      ∃ w', U w = .ok w' ∧ w'.raidmeta = w.raidmeta ∧ DataEq w'.disks R) :
    ∃ s', (do
      let s ← writerenter s
      let s ← acquireClusterLock s
      let loaded ← clusterloadedAt k s
      let s ← if !loaded then L k s else pure s
      let s ← U (releaseClusterLock s)
      let s ← writerexit s
      pure (0, s) : Except Fault (UInt64 × RaidState)) = .ok (0, s') ∧
      s'.raidmeta = (setclusterloaded k s).raidmeta ∧ DataEq s'.disks R := by
  set r := s.raidmeta.data.raid4 with hr
  set s₁ := s.setRaid4 { r with writecount := r.writecount + 1 } with hs₁
  have hent : writerenter s = .ok s₁ := writerenter_quiet hq.repairlock hq.repairing
  set s₂ := s₁.setRaid4 { s₁.raidmeta.data.raid4 with clusterlock := ⟨true⟩ } with hs₂
  have hacq : acquireClusterLock s₁ = .ok s₂ := acquireClusterLock_free hq.clusterlock
  have hloaded : clusterloadedAt k s₂ = .ok (r.cluster_loaded k) := by
    simp [clusterloadedAt, hk, s₂, s₁, r]
  -- the rest of the body, after a load that marks the cluster and keeps the data
  have tail : ∀ s₃ : RaidState, s₃.raidmeta = (setclusterloaded k s₂).raidmeta →
      DataEq s₃.disks s.disks → ∃ s', (do
        let s ← U (releaseClusterLock s₃)
        let s ← writerexit s
        pure (0, s) : Except Fault (UInt64 × RaidState)) = .ok (0, s') ∧
        s'.raidmeta = (setclusterloaded k s).raidmeta ∧ DataEq s'.disks R := by
    intro s₃ hm₃ hd₃
    obtain ⟨w, hU', hwm, hwd⟩ := hU (releaseClusterLock s₃)
      (by simp [releaseClusterLock, hm₃, s₂, s₁]) (by simpa [releaseClusterLock] using hd₃)
    have hexit := writerexit_free (s := w)
      (by simpa [hwm, releaseClusterLock, hm₃, s₂, s₁, setclusterloaded] using hq.repairlock)
    refine ⟨w.setRaid4 { w.raidmeta.data.raid4 with
      writecount := w.raidmeta.data.raid4.writecount - 1 },
      by simp only [hU', Except.ok_bind, hexit, Except.pure_eq_ok], ?_, hwd⟩
    simp only [setRaid4, releaseClusterLock, setclusterloaded, hwm, hm₃, s₂, s₁, r,
      Int.add_sub_cancel, hq.clusterlock]
  simp only [hent, Except.ok_bind, hacq, hloaded]
  cases hc : r.cluster_loaded k
  · obtain ⟨w, hw, hwm, hwd⟩ := hL hc s₂ rfl rfl rfl
    simp only [Bool.not_false, if_true, hw, Except.ok_bind]
    exact tail w hwm hwd
  · simp only [Bool.not_true, Bool.false_eq_true, if_false, Except.pure_eq_ok, Except.ok_bind]
    refine tail s₂ ?_ (DataEq.refl _)
    simp [setclusterloaded, s₂, s₁, ← hc]

/-- The writers' body on a cluster that is not loaded: the loader runs with the
writer counted and `clusterlock` held, then the store, then the exit. -/
theorem writer_unloaded {s w w' : RaidState} {k : Nat} {L : Nat → RaidState → Except Fault RaidState}
    {U : RaidState → Except Fault RaidState} (hq : Quiet s.raidmeta) (hk : k < NCLUSTERS)
    (hc : s.raidmeta.data.raid4.cluster_loaded k = false)
    (hL : L k (s.setRaid4 { s.raidmeta.data.raid4 with writecount := 1, clusterlock := ⟨true⟩ }) =
      .ok w)
    (hwm : w.raidmeta = (setclusterloaded k
      (s.setRaid4 { s.raidmeta.data.raid4 with writecount := 1, clusterlock := ⟨true⟩ })).raidmeta)
    (hU : U (releaseClusterLock w) = .ok w') (hwm' : w'.raidmeta = (releaseClusterLock w).raidmeta) :
    ∃ s', (do
      let s ← writerenter s
      let s ← acquireClusterLock s
      let loaded ← clusterloadedAt k s
      let s ← if !loaded then L k s else pure s
      let s ← U (releaseClusterLock s)
      let s ← writerexit s
      pure (0, s) : Except Fault (UInt64 × RaidState)) = .ok (0, s') ∧
      s'.raidmeta = (setclusterloaded k s).raidmeta ∧ s'.disks = w'.disks := by
  set u := s.setRaid4 { s.raidmeta.data.raid4 with writecount := 1, clusterlock := ⟨true⟩ }
  have henter : ∀ f : RaidState → Except Fault (UInt64 × RaidState), (do
      let s ← writerenter s
      let s ← acquireClusterLock s
      f s) = f u := by
    intro f
    rw [writerenter_quiet hq.repairlock hq.repairing, Except.ok_bind,
      acquireClusterLock_free (by simpa using hq.clusterlock), Except.ok_bind]
    simp [u, hq.writecount]
  have hloaded : clusterloadedAt k u = .ok false := by simp [clusterloadedAt, hk, u, hc]
  have hrl : w'.raidmeta.data.raid4.repairlock = ⟨false⟩ := by
    rw [hwm']
    simpa [releaseClusterLock, hwm, setclusterloaded, u] using hq.repairlock
  rw [henter]
  simp only [hloaded, Except.ok_bind, Bool.not_false, if_true, hL, hU, writerexit_free hrl]
  refine ⟨_, rfl, ?_, rfl⟩
  simp only [setRaid4, releaseClusterLock, setclusterloaded, hwm', hwm, u, Int.sub_self,
    ← hq.writecount, ← hq.clusterlock]

theorem loadcluster_hyp {s : RaidState} {k : Nat} {L : Nat → RaidState → Except Fault RaidState}
    (hload : ∀ u : RaidState, Wiring c u.raidmeta → u.raidmeta.type = s.raidmeta.type →
      (∀ i < c.DISKS, (u.raidmeta.diskinfo i).lock = ⟨false⟩) →
      (∀ b < diskblockn, b / CLUSTER_SIZE = k → ∀ i < c.DISKS, col u b i = 0) →
      ∃ Y, DataEq Y u.disks ∧ L k u =
        .ok (let t : RaidState := { setclusterloaded k u with disks := Y }
          { t with disks := metaDisks c t }))
    (hq : Quiet s.raidmeta) (hw : Wiring c s.raidmeta)
    (hz : ∀ b < diskblockn, s.raidmeta.data.raid4.cluster_loaded (b / CLUSTER_SIZE) = false →
      ∀ i < c.DISKS, col s b i = 0) :
    s.raidmeta.data.raid4.cluster_loaded k = false → ∀ u : RaidState,
      u.raidmeta.type = s.raidmeta.type → u.raidmeta.diskinfo = s.raidmeta.diskinfo →
      u.disks = s.disks →
      ∃ w, L k u = .ok w ∧ w.raidmeta = (setclusterloaded k u).raidmeta ∧ DataEq w.disks u.disks := by
  intro hc u hut hui hud
  have hwu : Wiring c u.raidmeta := ⟨fun i hi => hui ▸ hw.diskn i hi, hui ▸ hw.spare⟩
  obtain ⟨Y, hY, hrun⟩ := hload u hwu hut (fun i _ => hui ▸ hq.disklock i)
    (fun b hb hbk i hi => by rw [col, hud]; exact hz b hb (hbk ▸ hc) i hi)
  exact ⟨_, hrun, rfl, (dataEq_metaDisks c _).trans hY⟩

theorem cluster_lt {st : Nat} (hst : st < diskblockn) : st / CLUSTER_SIZE < NCLUSTERS := by
  simp only [diskblockn_eq, CLUSTER_SIZE, NCLUSTERS_eq] at hst ⊢
  omega

/-- `raid5write(x)` in range with at most one invalid disk passes its checks
and runs the writers' body at the block's cluster. -/
theorem raid5write_body {s : RaidState} {x : Int} (v : Block) (ht : s.raidmeta.type = .RAID5)
    (hone : AtMostOneInvalid c s.raidmeta) (h0 : 0 ≤ x) (hx : x < raidblockn c s.raidmeta) :
    raid5write c x v s = (do
      let s ← writerenter s
      let s ← acquireClusterLock s
      let loaded ← clusterloadedAt (stripeOf c x.toNat / CLUSTER_SIZE) s
      let s ← if !loaded then loadclusterraid5 c (stripeOf c x.toNat / CLUSTER_SIZE) s else pure s
      let s ← raid5update c (raid5disk c x.toNat) (raid5parity c x.toNat) (stripeOf c x.toNat) v
        (releaseClusterLock s)
      let s ← writerexit s
      pure (0, s) : Except Fault (UInt64 × RaidState)) := by
  obtain ⟨h2, -⟩ := stripeOf_lt c (.inr ht) h0 hx
  have hrange : ¬ outofrange c x s := by simp only [outofrange]; omega
  have hd := raid5disk_lt c (x := x.toNat)
  simp only [raid5write, ht, ne_eq, not_true_eq_false, if_false, hrange, cdiv, cmod,
    show c.DISKS - 1 ≠ 0 by omega, Except.ok_bind]
  rw [show (x.toNat / (c.DISKS - 1) % c.DISKS + 1 + x.toNat % (c.DISKS - 1)) % c.DISKS =
    raid5disk c x.toNat from rfl, show x.toNat / (c.DISKS - 1) = stripeOf c x.toNat from rfl,
    show stripeOf c x.toNat % c.DISKS = raid5parity c x.toNat from rfl]
  have hgo : (!(s.raidmeta.diskinfo (raid5disk c x.toNat)).valid &&
      otherinvalid c (raid5disk c x.toNat) s) = false := by
    cases hv : (s.raidmeta.diskinfo (raid5disk c x.toNat)).valid
    · simp [otherinvalid_eq_false c hone hd hv]
    · rfl
  simp only [diskinfoAt, Nat.le_of_lt hd, if_true, Except.ok_bind, hgo, Bool.false_eq_true, if_false]

/-- `raid5write(x)` in range returns `0`, stores the block by `stripeWrite` and
marks its cluster loaded; every lock and counter is as before. -/
theorem raid5write_spec {s : RaidState} {x : Int} (v : Block) (hq : Quiet s.raidmeta)
    (hw : Wiring c s.raidmeta) (ht : s.raidmeta.type = .RAID5)
    (hone : AtMostOneInvalid c s.raidmeta)
    (hz : ∀ b < diskblockn, s.raidmeta.data.raid4.cluster_loaded (b / CLUSTER_SIZE) = false →
      ∀ i < c.DISKS, col s b i = 0)
    (h0 : 0 ≤ x) (hx : x < raidblockn c s.raidmeta) :
    ∃ s', raid5write c x v s = .ok (0, s') ∧
      s'.raidmeta = (setclusterloaded (stripeOf c x.toNat / CLUSTER_SIZE) s).raidmeta ∧
      DataEq s'.disks (stripeWrite c s (raid5disk c x.toNat) (raid5parity c x.toNat)
        (stripeOf c x.toNat) v).disks := by
  obtain ⟨h2, hst⟩ := stripeOf_lt c (.inr ht) h0 hx
  have hd := raid5disk_lt c (x := x.toNat)
  have hp := raid5parity_lt c (x := x.toNat)
  have hdp := raid5disk_ne_parity c (x := x.toNat) h2
  have hk := cluster_lt hst
  rw [raid5write_body c v ht hone h0 hx]
  refine writer_body hq hk (loadcluster_hyp c (fun u hwu hut hlu hzu =>
    loadclusterraid5_zero c hwu (hut.trans ht) hk hlu hzu) hq hw hz) ?_
  intro w hwi hwd
  have hww : Wiring c w.raidmeta := ⟨fun i hi => hwi ▸ hw.diskn i hi, hwi ▸ hw.spare⟩
  exact ⟨_, raid5update_eq c v hww (fun i _ => hwi ▸ hq.disklock i) hd hp hdp (Nat.le_of_lt hst),
    stripeWrite_raidmeta c _ _ _ _ _, stripeWrite_congr c v hwi hwd hst⟩

/-- `raid4write(x)` in range with at most one invalid disk passes its checks
and runs the writers' body at the block's cluster. -/
theorem raid4write_body {s : RaidState} {x : Int} (v : Block) (ht : s.raidmeta.type = .RAID4)
    (hone : AtMostOneInvalid c s.raidmeta) (h0 : 0 ≤ x) (hx : x < raidblockn c s.raidmeta) :
    raid4write c x v s = (do
      let s ← writerenter s
      let s ← acquireClusterLock s
      let loaded ← clusterloadedAt (stripeOf c x.toNat / CLUSTER_SIZE) s
      let s ← if !loaded then loadclusterraid4 c (stripeOf c x.toNat / CLUSTER_SIZE) s else pure s
      let s ← raid4update c (x.toNat % (c.DISKS - 1)) (stripeOf c x.toNat) v (releaseClusterLock s)
      let s ← writerexit s
      pure (0, s) : Except Fault (UInt64 × RaidState)) := by
  obtain ⟨h2, -⟩ := stripeOf_lt c (.inl ht) h0 hx
  have hrange : ¬ outofrange c x s := by simp only [outofrange]; omega
  have hd : x.toNat % (c.DISKS - 1) < c.DISKS - 1 := Nat.mod_lt _ (by omega)
  simp only [raid4write, ht, ne_eq, not_true_eq_false, if_false, hrange, cdiv, cmod,
    show c.DISKS - 1 ≠ 0 by omega, Except.ok_bind]
  rw [show x.toNat / (c.DISKS - 1) = stripeOf c x.toNat from rfl]
  have hgo : (!(s.raidmeta.diskinfo (x.toNat % (c.DISKS - 1))).valid &&
      otherinvalid c (x.toNat % (c.DISKS - 1)) s) = false := by
    cases hv : (s.raidmeta.diskinfo (x.toNat % (c.DISKS - 1))).valid
    · simp [otherinvalid_eq_false c hone (by omega) hv]
    · rfl
  simp only [diskinfoAt, show x.toNat % (c.DISKS - 1) ≤ c.DISKS by omega, if_true, Except.ok_bind,
    hgo, Bool.false_eq_true, if_false]

theorem raid4write_spec {s : RaidState} {x : Int} (v : Block) (hq : Quiet s.raidmeta)
    (hw : Wiring c s.raidmeta) (ht : s.raidmeta.type = .RAID4)
    (hone : AtMostOneInvalid c s.raidmeta)
    (hz : ∀ b < diskblockn, s.raidmeta.data.raid4.cluster_loaded (b / CLUSTER_SIZE) = false →
      ∀ i < c.DISKS, col s b i = 0)
    (h0 : 0 ≤ x) (hx : x < raidblockn c s.raidmeta) :
    ∃ s', raid4write c x v s = .ok (0, s') ∧
      s'.raidmeta = (setclusterloaded (stripeOf c x.toNat / CLUSTER_SIZE) s).raidmeta ∧
      DataEq s'.disks (stripeWrite c s (x.toNat % (c.DISKS - 1)) (c.DISKS - 1)
        (stripeOf c x.toNat) v).disks := by
  obtain ⟨h2, hst⟩ := stripeOf_lt c (.inl ht) h0 hx
  have hd : x.toNat % (c.DISKS - 1) < c.DISKS - 1 := Nat.mod_lt _ (by omega)
  have hk := cluster_lt hst
  rw [raid4write_body c v ht hone h0 hx]
  refine writer_body hq hk (loadcluster_hyp c (fun u hwu hut hlu hzu =>
    loadclusterraid4_zero c hwu (hut.trans ht) hk hlu hzu) hq hw hz) ?_
  intro w hwi hwd
  have hww : Wiring c w.raidmeta := ⟨fun i hi => hwi ▸ hw.diskn i hi, hwi ▸ hw.spare⟩
  exact ⟨_, raid4update_eq c v hww (fun i _ => hwi ▸ hq.disklock i) hd (Nat.le_of_lt hst),
    stripeWrite_raidmeta c _ _ _ _ _, stripeWrite_congr c v hwi hwd hst⟩

/-- The first write to a RAID4 cluster: `loadclusterraid4` sets up the parity
of the whole cluster from the valid data disks and stores the structure, which
at that point holds `clusterlock` and counts the writer; then the block is
stored by `stripeWrite`. -/
theorem raid4write_unloaded {s : RaidState} {x : Int} (v : Block) (hq : Quiet s.raidmeta)
    (hw : Wiring c s.raidmeta) (ht : s.raidmeta.type = .RAID4)
    (hone : AtMostOneInvalid c s.raidmeta) (h0 : 0 ≤ x) (hx : x < raidblockn c s.raidmeta)
    (hc : s.raidmeta.data.raid4.cluster_loaded (stripeOf c x.toNat / CLUSTER_SIZE) = false) :
    ∃ s', raid4write c x v s = .ok (0, s') ∧
      s'.raidmeta = (setclusterloaded (stripeOf c x.toNat / CLUSTER_SIZE) s).raidmeta ∧
      s'.disks = (stripeWrite c
        { s with
          disks := metaDisks c
            { setclusterloaded (stripeOf c x.toNat / CLUSTER_SIZE)
                (s.setRaid4 { s.raidmeta.data.raid4 with writecount := 1, clusterlock := ⟨true⟩ }) with
              disks := loaded4 c (List.range' (stripeOf c x.toNat / CLUSTER_SIZE * CLUSTER_SIZE)
                CLUSTER_SIZE) s } }
        (x.toNat % (c.DISKS - 1)) (c.DISKS - 1) (stripeOf c x.toNat) v).disks := by
  obtain ⟨h2, hst⟩ := stripeOf_lt c (.inl ht) h0 hx
  have hd : x.toNat % (c.DISKS - 1) < c.DISKS - 1 := Nat.mod_lt _ (by omega)
  have hk := cluster_lt hst
  rw [raid4write_body c v ht hone h0 hx]
  obtain ⟨s', hrun, hm, hdisks⟩ := writer_unloaded hq hk hc
    (loadclusterraid4_eq c (hw.of_diskinfo c rfl) ht hk fun i _ => hq.disklock i) rfl
    (raid4update_eq c v (hw.of_diskinfo c rfl) (fun i _ => hq.disklock i) hd (Nat.le_of_lt hst))
    (stripeWrite_raidmeta c _ _ _ _ _)
  exact ⟨s', hrun, hm, hdisks.trans (stripeWrite_disks_eq c v rfl rfl)⟩

/-- The first write to a RAID5 cluster: `loadclusterraid5` sets up the parity
of every stripe of the cluster from the other valid disks, then the block is
stored by `stripeWrite`. -/
theorem raid5write_unloaded {s : RaidState} {x : Int} (v : Block) (hq : Quiet s.raidmeta)
    (hw : Wiring c s.raidmeta) (ht : s.raidmeta.type = .RAID5)
    (hone : AtMostOneInvalid c s.raidmeta) (h0 : 0 ≤ x) (hx : x < raidblockn c s.raidmeta)
    (hc : s.raidmeta.data.raid4.cluster_loaded (stripeOf c x.toNat / CLUSTER_SIZE) = false) :
    ∃ s', raid5write c x v s = .ok (0, s') ∧
      s'.raidmeta = (setclusterloaded (stripeOf c x.toNat / CLUSTER_SIZE) s).raidmeta ∧
      s'.disks = (stripeWrite c
        { s with
          disks := metaDisks c
            { setclusterloaded (stripeOf c x.toNat / CLUSTER_SIZE)
                (s.setRaid4 { s.raidmeta.data.raid4 with writecount := 1, clusterlock := ⟨true⟩ }) with
              disks := loaded5 c (List.range' (stripeOf c x.toNat / CLUSTER_SIZE * CLUSTER_SIZE)
                CLUSTER_SIZE) s } }
        (raid5disk c x.toNat) (raid5parity c x.toNat) (stripeOf c x.toNat) v).disks := by
  obtain ⟨h2, hst⟩ := stripeOf_lt c (.inr ht) h0 hx
  have hk := cluster_lt hst
  rw [raid5write_body c v ht hone h0 hx]
  obtain ⟨s', hrun, hm, hdisks⟩ := writer_unloaded hq hk hc
    (loadclusterraid5_eq c (hw.of_diskinfo c rfl) ht hk fun i _ => hq.disklock i) rfl
    (raid5update_eq c v (hw.of_diskinfo c rfl) (fun i _ => hq.disklock i) (raid5disk_lt c)
      (raid5parity_lt c) (raid5disk_ne_parity c h2) (Nat.le_of_lt hst))
    (stripeWrite_raidmeta c _ _ _ _ _)
  exact ⟨s', hrun, hm, hdisks.trans (stripeWrite_disks_eq c v rfl rfl)⟩

end Write

section Repair

variable {s : RaidState} {d : Nat}

/-- The disks after the repair loop over the blocks `l`: block `b` of disk
`d + 1` becomes the exclusive-or of the other disks when its cluster is
loaded. -/
def rebuilt (d : Nat) (l : List Nat) (s : RaidState) : Nat → Nat → Block :=
  fun e b => if e = d + 1 ∧ b ∈ l ∧ s.raidmeta.data.raid4.cluster_loaded (b / CLUSTER_SIZE) = true
    then xorSum (col s b) (others c d) else s.disks e b

theorem xorSum_others_setBlock (b b' : Nat) (v : Block) :
    xorSum (col (s.setBlock (d + 1) b v) b') (others c d) = xorSum (col s b') (others c d) := by
  apply xorSum_congr
  intro i hi
  have hid : i + 1 ≠ d + 1 := by
    have := ((mem_others c).mp hi).2
    omega
  simp [col, Function.update_of_ne hid]

theorem rebuildblocks_eq (hw : Wiring c s.raidmeta)
    (hcl : s.raidmeta.data.raid4.clusterlock = ⟨false⟩) (hd : d < c.DISKS) (l : List Nat)
    (hl : ∀ b ∈ l, b ≤ diskblockn) :
    rebuildblocks c d l s = .ok { s with disks := rebuilt c d l s } := by
  induction l generalizing s with
  | nil =>
    have h : rebuilt c d [] s = s.disks := by
      funext e b
      simp [rebuilt]
    rw [h]
    rfl
  | cons b l ih =>
    have hb := hl b List.mem_cons_self
    have hl' : ∀ b' ∈ l, b' ≤ diskblockn := fun b' hb' => hl b' (List.mem_cons_of_mem b hb')
    have hk : b / CLUSTER_SIZE < NCLUSTERS := by
      simp only [diskblockn_eq, CLUSTER_SIZE, NCLUSTERS_eq] at hb ⊢
      omega
    have hloaded : clusterloadedAt (b / CLUSTER_SIZE)
        (s.setRaid4 { s.raidmeta.data.raid4 with clusterlock := ⟨true⟩ }) =
        .ok (s.raidmeta.data.raid4.cluster_loaded (b / CLUSTER_SIZE)) := by
      simp [clusterloadedAt, hk]
    simp only [rebuildblocks, acquireClusterLock_free hcl, hloaded, releaseClusterLock_acquired hcl]
    cases hc : s.raidmeta.data.raid4.cluster_loaded (b / CLUSTER_SIZE)
    · simp only [Bool.not_false, if_true, ih hw hcl hl', Except.ok.injEq, RaidState.mk.injEq,
        true_and]
      funext e b'
      by_cases hbb : b' = b
      · subst hbb
        simp [rebuilt, hc]
      · simp [rebuilt, hbb]
    · have hwr : write_block c (d + 1) b (xorSum (col s b) (others c d)) s =
          .ok (s.setBlock (d + 1) b (xorSum (col s b) (others c d))) :=
        write_block_ok c _ ⟨by omega, by omega, hb⟩
      have hnext : rebuildblocks c d l (s.setBlock (d + 1) b (xorSum (col s b) (others c d))) =
          .ok { s.setBlock (d + 1) b (xorSum (col s b) (others c d)) with
            disks := rebuilt c d l (s.setBlock (d + 1) b (xorSum (col s b) (others c d))) } :=
        ih hw hcl hl'
      simp only [Bool.not_true, Bool.false_eq_true, if_false, xorothers_eq c hw d hb,
        hw.diskn d hd, hwr, hnext, Except.ok.injEq, RaidState.mk.injEq, true_and, setBlock_raidmeta]
      funext e b'
      simp only [rebuilt, setBlock_raidmeta, xorSum_others_setBlock, List.mem_cons, setBlock_disks]
      by_cases he : e = d + 1
      · subst he
        by_cases hbb : b' = b
        · subst hbb
          simp [hc]
        · simp [hbb]
      · simp [he]

theorem rebuilt_congr {t : RaidState} (l : List Nat) (hX : t.disks = s.disks)
    (hc : t.raidmeta.data.raid4.cluster_loaded = s.raidmeta.data.raid4.cluster_loaded) :
    rebuilt c d l t = rebuilt c d l s := by
  unfold rebuilt col
  rw [hX, hc]

/-- The state the parity repair of disk index `d` leaves: every loaded stripe
of disk `d` rebuilt, and the disk valid. -/
def parityRebuilt (d : Nat) (s : RaidState) : RaidState :=
  ({ s with disks := rebuilt c d (List.range (diskblockn + 1)) s }).setDiskinfo d
    { s.raidmeta.diskinfo d with valid := true }

theorem parityrepair_eq (hq : Quiet s.raidmeta) (hw : Wiring c s.raidmeta) (hd : d < c.DISKS) :
    parityrepair c d s = .ok (parityRebuilt c d s) := by
  have hfree : ∀ i ∈ List.range c.DISKS, (s.raidmeta.diskinfo i).lock = ⟨false⟩ :=
    fun i _ => hq.disklock i
  simp only [parityrepair, acquireRepairLock_free hq.repairlock, Except.ok_bind,
    setRaid4_raidmeta_data_raid4, hq.writecount, ne_eq, not_true_eq_false, false_and, if_false]
  set u := releaseRepairLock ((s.setRaid4 { s.raidmeta.data.raid4 with
    repairlock := ⟨true⟩, writecount := 0 }).setRaid4 { s.raidmeta.data.raid4 with
    repairlock := ⟨true⟩, writecount := 0, repairing := s.raidmeta.data.raid4.repairing + 1 }) with hu
  have hui : u.raidmeta.diskinfo = s.raidmeta.diskinfo := rfl
  have hwu : Wiring c (u.setLocks (List.range c.DISKS) true).raidmeta :=
    (hw.of_diskinfo c hui).setLocks c _ _
  have hrb := rebuildblocks_eq c hwu (by simpa [u, releaseRepairLock] using hq.clusterlock) hd
    (List.range (diskblockn + 1)) (fun b hb => Nat.lt_succ_iff.mp (List.mem_range.mp hb))
  have hreb : rebuilt c d (List.range (diskblockn + 1)) (u.setLocks (List.range c.DISKS) true) =
      rebuilt c d (List.range (diskblockn + 1)) s :=
    rebuilt_congr c _ rfl rfl
  simp only [acquireDiskLocks_free List.nodup_range (s := u) hfree, Except.ok_bind, hrb, hreb,
    releaseDiskLocks_eq]
  simp [acquireRepairLock, u, releaseRepairLock, parityRebuilt, hd]
  ext i
  all_goals simp [setLocks, Function.update_apply, hq.disklock, hq.repairlock, hq.writecount]
  all_goals
    by_cases hid : i = d
    · simp [hid, hd]
    · by_cases hi : i < c.DISKS <;> simp [hid, hi, hq.disklock]

/-- `raidrepair(n)` on RAID4 or RAID5: nothing to do for a valid disk;
otherwise the disk's loaded stripes are rebuilt, the disk is marked valid and
the structure stored. -/
theorem raidrepair_parity {n : Int} (hq : Quiet s.raidmeta) (hw : Wiring c s.raidmeta)
    (ht : s.raidmeta.type = .RAID4 ∨ s.raidmeta.type = .RAID5)
    (hdes : s.raidmeta.isDestroyed = false) (hone : AtMostOneInvalid c s.raidmeta)
    (h1 : 1 ≤ n) (h2 : n ≤ c.DISKS) :
    raidrepair c n s = .ok (0, if (s.raidmeta.diskinfo (n - 1).toNat).valid then s
      else { parityRebuilt c (n - 1).toNat s with
        disks := metaDisks c (parityRebuilt c (n - 1).toNat s) }) := by
  have hr : ¬ (n - 1 < 0 ∨ (c.DISKS : Int) ≤ n - 1) := by omega
  have hd : (n - 1).toNat < c.DISKS := by omega
  simp only [raidrepair, hdes, hr, Bool.false_eq_true, if_false]
  by_cases hv : (s.raidmeta.diskinfo (n - 1).toNat).valid
  · simp only [hv, if_true]
  · have hlocks : ∀ i < c.DISKS,
        ((parityRebuilt c (n - 1).toNat s).raidmeta.diskinfo i).lock = ⟨false⟩ := by
      intro i _
      by_cases hi : i = (n - 1).toNat
      · subst hi
        simp [parityRebuilt, hq.disklock]
      · rw [parityRebuilt, setDiskinfo_raidmeta_diskinfo, Function.update_of_ne hi]
        exact hq.disklock i
    have hrep : (do
        let s ← parityrepair c (n - 1).toNat s
        let s ← writeraidmeta c s
        pure (0, s) : Except Fault (UInt64 × RaidState)) =
        .ok (0, { parityRebuilt c (n - 1).toNat s with
          disks := metaDisks c (parityRebuilt c (n - 1).toNat s) }) := by
      simp only [parityrepair_eq c hq hw hd, Except.ok_bind, writeraidmeta_free c hlocks,
        Except.pure_eq_ok]
    rcases ht with ht | ht <;>
      simp only [hv, Bool.false_eq_true, if_false, ht,
        otherinvalid_eq_false c hone hd (Bool.eq_false_iff.mpr hv), hrep]

end Repair

section Setup

@[simp] theorem initclusters_diskinfo (s : RaidState) :
    (initclusters s).raidmeta.diskinfo = s.raidmeta.diskinfo := rfl

theorem Fresh.invalidcount_eq {s : RaidState} (hf : Fresh c s) : invalidcount c s = 0 := by
  have hnil : (List.range c.DISKS).filter (fun i => !(s.raidmeta.diskinfo i).valid) = [] := by
    apply List.filter_eq_nil_iff.mpr
    intro i hi
    simp [hf.valid i (List.mem_range.mp hi)]
  unfold invalidcount
  rw [hnil]
  rfl

/-- `setraidtype` of RAID4 or RAID5 with at most one invalid disk: no cluster
loaded, fresh locks and counters, and the structure stored. -/
theorem setraidtype_parity {s : RaidState} {code : Int} {t : RAID_TYPE}
    (hcode : RAID_TYPE.ofInt code = some t) (ht : t = .RAID4 ∨ t = .RAID5)
    (hl : ∀ i < c.DISKS, (s.raidmeta.diskinfo i).lock = ⟨false⟩) (hinv : invalidcount c s ≤ 1) :
    setraidtype c code s = .ok (0,
      let s' := initclusters (settype t s)
      { s' with disks := metaDisks c s' }) := by
  have hinv' : ¬ 1 < invalidcount c (settype t s) := Nat.not_lt.mpr hinv
  have hfin : (do
      let s ← writeraidmeta c (initclusters (settype t s))
      pure (0, s) : Except Fault (UInt64 × RaidState)) =
      .ok (0, { initclusters (settype t s) with
        disks := metaDisks c (initclusters (settype t s)) }) := by
    rw [writeraidmeta_free c (by simpa using hl)]
    rfl
  rw [setraidtype, hcode]
  rcases ht with rfl | rfl
  · exact (if_neg hinv').trans hfin
  · exact (if_neg hinv').trans hfin

/-- `setraidtype` of RAID4 or RAID5 with two invalid disks or more returns `-1`
after it has set the type, the handlers and `isDestroyed`; nothing else is
set up and nothing is stored. -/
theorem setraidtype_rejected {s : RaidState} {code : Int} {u : RAID_TYPE}
    (hcode : RAID_TYPE.ofInt code = some u) (hp : u = .RAID4 ∨ u = .RAID5)
    (hinv : 1 < invalidcount c s) : setraidtype c code s = .ok (-1, settype u s) := by
  have hinv' : 1 < invalidcount c (settype u s) := hinv
  rw [setraidtype, hcode]
  rcases hp with rfl | rfl
  · exact if_pos hinv'
  · exact if_pos hinv'

end Setup

end Xv6Raid
