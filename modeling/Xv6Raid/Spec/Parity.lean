import Xv6Raid.Spec.Meta

/-!
The RAID4 and RAID5 functions on a quiet, wired structure: the writers' entry
and exit through `repairlock`, the exclusive-or of the other disks, the lazy
loading of a cluster, the three write paths, and the repair loop. Each lemma
gives the result of one function outright, with the locks it takes released
again; callers cite it and never unfold the function.
-/

namespace Xv6Raid

open XorSum RaidState

variable (c : Config)

/-- Block `b` of disk index `i`, which is disk number `i + 1`. -/
def col (s : RaidState) (b i : Nat) : Block := s.disks (i + 1) b

/-- The disk indices other than `d`. -/
def others (d : Nat) : List Nat := (List.range c.DISKS).filter (· ≠ d)

theorem others_nodup (d : Nat) : (others c d).Nodup :=
  List.nodup_range.filter _

theorem mem_others {d i : Nat} : i ∈ others c d ↔ i < c.DISKS ∧ i ≠ d := by
  simp [others]

/-- The loop of `readinvalidraid4`, `readinvalidraid5` and the repair: with the
disks wired, every read succeeds and the result is the exclusive-or of the
other disks' blocks. -/
theorem xorothers_eq {s : RaidState} (hw : Wiring c s.raidmeta) (d : Nat) {b : Nat}
    (hb : b ≤ diskblockn) : xorothers c d b s = .ok (xorSum (col s b) (others c d)) := by
  have hread : ∀ i ∈ List.range c.DISKS, (i != d) = true →
      read_block c (s.raidmeta.diskinfo i).diskn.toNat b s = .ok (col s b i) := by
    intro i hi _
    have hi' := List.mem_range.mp hi
    rw [hw.diskn i hi', read_block_ok c ⟨by omega, by omega, hb⟩]
    rfl
  rw [xorothers, xorFoldM_ok _ _ (col s b) _ hread, zero_xor, others]
  congr 2
  apply List.filter_congr
  intro i _
  by_cases hid : i = d <;> simp [hid]

@[simp] theorem setclusterloaded_diskinfo (k : Nat) (s : RaidState) :
    (setclusterloaded k s).raidmeta.diskinfo = s.raidmeta.diskinfo := rfl

@[simp] theorem setclusterloaded_disks (k : Nat) (s : RaidState) :
    (setclusterloaded k s).disks = s.disks := rfl

theorem Quiet.setclusterloaded {m : RaidState} (h : Quiet m.raidmeta) (k : Nat) :
    Quiet (Xv6Raid.setclusterloaded k m).raidmeta :=
  ⟨h.disklock, h.mutex, h.writing, h.reading, h.clusterlock, h.repairlock, h.writecount,
    h.repairing⟩

/-- A writer that finds no repair under way raises `writecount`. -/
theorem writerenter_quiet {s : RaidState} (h : s.raidmeta.data.raid4.repairlock = ⟨false⟩)
    (hr : s.raidmeta.data.raid4.repairing = 0) :
    writerenter s = .ok (s.setRaid4 { s.raidmeta.data.raid4 with
      writecount := s.raidmeta.data.raid4.writecount + 1 }) := by
  simp only [writerenter, acquireRepairLock_free h, Except.ok_bind, setRaid4_raidmeta_data_raid4,
    hr, ne_eq, not_true_eq_false, if_false, releaseRepairLock, setRaid4_setRaid4,
    Except.pure_eq_ok]
  congr 2
  ext <;> simp [h]

theorem writerexit_free {s : RaidState} (h : s.raidmeta.data.raid4.repairlock = ⟨false⟩) :
    writerexit s = .ok (s.setRaid4 { s.raidmeta.data.raid4 with
      writecount := s.raidmeta.data.raid4.writecount - 1 }) := by
  simp only [writerexit, acquireRepairLock_free h, Except.ok_bind, setRaid4_raidmeta_data_raid4,
    releaseRepairLock, setRaid4_setRaid4, Except.pure_eq_ok]
  congr 2
  ext <;> simp [h]

/-- The disks after the stripe loop of `loadclusterraid5` over the blocks `l`:
the parity of block `b` sits on disk index `b % DISKS` and, when that disk is
valid, becomes the exclusive-or of block `b` of the other valid disks. -/
def loaded5 (l : List Nat) (s : RaidState) : Nat → Nat → Block :=
  fun e b => if e = b % c.DISKS + 1 ∧ b ∈ l ∧ (s.raidmeta.diskinfo (b % c.DISKS)).valid then
    xorSum (col s b) ((List.range c.DISKS).filter
      fun i => (s.raidmeta.diskinfo i).valid && i != b % c.DISKS)
  else s.disks e b

theorem loadstripes5_eq (l : List Nat) {s : RaidState} (hw : Wiring c s.raidmeta)
    (hl : ∀ b ∈ l, b ≤ diskblockn) :
    loadstripes5 c l s = .ok { s with disks := loaded5 c l s } := by
  induction l generalizing s with
  | nil =>
    have h : loaded5 c [] s = s.disks := by
      funext e b
      simp [loaded5]
    rw [h]
    rfl
  | cons b l ih =>
    have hb := hl b List.mem_cons_self
    have hl' : ∀ b' ∈ l, b' ≤ diskblockn := fun b' hb' => hl b' (List.mem_cons_of_mem b hb')
    have hD := c.one_le_DISKS
    have hp : b % c.DISKS < c.DISKS := Nat.mod_lt _ (by omega)
    have hread : ∀ i ∈ List.range c.DISKS,
        ((s.raidmeta.diskinfo i).valid && i != b % c.DISKS) = true →
        read_block c (s.raidmeta.diskinfo i).diskn.toNat b s = .ok (col s b i) := by
      intro i hi _
      have hi' := List.mem_range.mp hi
      rw [hw.diskn i hi', read_block_ok c ⟨by omega, by omega, hb⟩]
      rfl
    -- every block the loop reads later lies off the parity block it writes now
    have hcol : ∀ (w : Block) (b' : Nat),
        xorSum (col (s.setBlock (b % c.DISKS + 1) b w) b') ((List.range c.DISKS).filter
          fun i => (s.raidmeta.diskinfo i).valid && i != b' % c.DISKS) =
        xorSum (col s b') ((List.range c.DISKS).filter
          fun i => (s.raidmeta.diskinfo i).valid && i != b' % c.DISKS) := by
      intro w b'
      apply xorSum_congr
      intro i hi
      by_cases hbb : b' = b
      · subst hbb
        have hip : i + 1 ≠ b' % c.DISKS + 1 := by
          have := (List.mem_filter.mp hi).2
          simp only [Bool.and_eq_true, bne_iff_ne] at this
          omega
        simp [col, Function.update_of_ne hip]
      · by_cases hip : i + 1 = b % c.DISKS + 1
        · simp [col, hip, Function.update_of_ne hbb]
        · simp [col, Function.update_of_ne hip]
    by_cases hv : (s.raidmeta.diskinfo (b % c.DISKS)).valid
    · set parity := xorSum (col s b) ((List.range c.DISKS).filter
        fun i => (s.raidmeta.diskinfo i).valid && i != b % c.DISKS) with hparity
      have hwr : write_block c (b % c.DISKS + 1) b parity s =
          .ok (s.setBlock (b % c.DISKS + 1) b parity) :=
        write_block_ok c _ ⟨by omega, by omega, hb⟩
      have hw' : Wiring c (s.setBlock (b % c.DISKS + 1) b parity).raidmeta := hw
      simp only [loadstripes5, xorFoldM_ok _ _ (col s b) _ hread, Except.ok_bind, zero_xor, hv,
        if_true, hw.diskn _ hp, ← hparity]
      rw [hwr, Except.ok_bind, ih hw' hl', Except.ok.injEq, RaidState.mk.injEq]
      refine ⟨rfl, ?_⟩
      funext e b'
      simp only [loaded5, setBlock_raidmeta, hcol, List.mem_cons, setBlock_disks]
      by_cases hbb : b' = b
      · subst hbb
        by_cases he : e = b' % c.DISKS + 1
        · subst he
          simp [hv, hparity]
        · simp [he]
      · by_cases he : e = b % c.DISKS + 1
        · subst he
          simp [hbb]
        · simp [hbb, Function.update_of_ne he]
    · simp only [loadstripes5, xorFoldM_ok _ _ (col s b) _ hread, Except.ok_bind, zero_xor, hv,
        Bool.false_eq_true, if_false, Except.pure_eq_ok, ih hw hl', Except.ok.injEq]
      congr 1
      funext e b'
      by_cases hbb : b' = b
      · subst hbb
        simp [loaded5, hv]
      · simp [loaded5, hbb]
/-- On stripes whose data blocks are all zero the loop computes zero parities,
so no data block changes. -/
theorem loaded5_zero {l : List Nat} {s : RaidState}
    (hz : ∀ b ∈ l, b < diskblockn → ∀ i < c.DISKS, col s b i = 0) :
    DataEq (loaded5 c l s) s.disks := by
  intro e b hb
  have hD := c.one_le_DISKS
  simp only [loaded5]
  split_ifs with h
  · obtain ⟨rfl, hbl, -⟩ := h
    have hcol := hz b hbl hb
    rw [xorSum_eq_zero fun i hi => hcol i (List.mem_range.mp (List.mem_filter.mp hi).1)]
    exact (hcol _ (Nat.mod_lt _ (by omega))).symm
  · rfl

/-- The disks after the stripe loop of `loadclusterraid4` over the blocks `l`:
when the parity disk is valid, its block `b` becomes the exclusive-or of block
`b` of the valid data disks. -/
def loaded4 (l : List Nat) (s : RaidState) : Nat → Nat → Block :=
  fun e b => if e = c.DISKS ∧ b ∈ l ∧ (s.raidmeta.diskinfo (c.DISKS - 1)).valid then
    xorSum (col s b) ((List.range (c.DISKS - 1)).filter fun i => (s.raidmeta.diskinfo i).valid)
  else s.disks e b

theorem loadstripes4_eq (l : List Nat) {s : RaidState} (hw : Wiring c s.raidmeta)
    (hl : ∀ b ∈ l, b ≤ diskblockn) :
    loadstripes4 c l s = .ok { s with disks := loaded4 c l s } := by
  induction l generalizing s with
  | nil =>
    have h : loaded4 c [] s = s.disks := by
      funext e b
      simp [loaded4]
    rw [h]
    rfl
  | cons b l ih =>
    have hb := hl b List.mem_cons_self
    have hl' : ∀ b' ∈ l, b' ≤ diskblockn := fun b' hb' => hl b' (List.mem_cons_of_mem b hb')
    have hD := c.one_le_DISKS
    have hread : ∀ i ∈ List.range (c.DISKS - 1), (s.raidmeta.diskinfo i).valid = true →
        read_block c (s.raidmeta.diskinfo i).diskn.toNat b s = .ok (col s b i) := by
      intro i hi _
      have hi' := List.mem_range.mp hi
      rw [hw.diskn i (by omega), read_block_ok c ⟨by omega, by omega, hb⟩]
      rfl
    -- the loop reads the data disks only, below the parity disk it writes
    have hcol : ∀ (w : Block) (b' : Nat),
        xorSum (col (s.setBlock c.DISKS b w) b') ((List.range (c.DISKS - 1)).filter
          fun i => (s.raidmeta.diskinfo i).valid) =
        xorSum (col s b') ((List.range (c.DISKS - 1)).filter
          fun i => (s.raidmeta.diskinfo i).valid) := by
      intro w b'
      apply xorSum_congr
      intro i hi
      have hiD : i + 1 ≠ c.DISKS := by
        have := List.mem_range.mp (List.mem_filter.mp hi).1
        omega
      simp [col, Function.update_of_ne hiD]
    by_cases hv : (s.raidmeta.diskinfo (c.DISKS - 1)).valid
    · set parity := xorSum (col s b) ((List.range (c.DISKS - 1)).filter
        fun i => (s.raidmeta.diskinfo i).valid) with hparity
      have hwr : write_block c c.DISKS b parity s = .ok (s.setBlock c.DISKS b parity) :=
        write_block_ok c _ ⟨by omega, Nat.le_refl _, hb⟩
      have hw' : Wiring c (s.setBlock c.DISKS b parity).raidmeta := hw
      simp only [loadstripes4, xorFoldM_ok _ _ (col s b) _ hread, Except.ok_bind, zero_xor, hv,
        if_true, ← hparity]
      rw [hwr, Except.ok_bind, ih hw' hl', Except.ok.injEq, RaidState.mk.injEq]
      refine ⟨rfl, ?_⟩
      funext e b'
      simp only [loaded4, setBlock_raidmeta, hcol, List.mem_cons, setBlock_disks, hv, and_true]
      by_cases he : e = c.DISKS
      · subst he
        by_cases hbl : b' ∈ l
        · simp [hbl]
        · by_cases hbb : b' = b
          · subst hbb
            simp [hbl, hparity]
          · simp [hbl, hbb]
      · simp [he]
    · simp only [loadstripes4, xorFoldM_ok _ _ (col s b) _ hread, Except.ok_bind, zero_xor, hv,
        Bool.false_eq_true, if_false, Except.pure_eq_ok, ih hw hl', Except.ok.injEq]
      congr 1
      funext e b'
      simp [loaded4, hv]

theorem loaded4_zero {l : List Nat} {s : RaidState}
    (hz : ∀ b ∈ l, b < diskblockn → ∀ i < c.DISKS, col s b i = 0) :
    DataEq (loaded4 c l s) s.disks := by
  intro e b hb
  have hD := c.one_le_DISKS
  simp only [loaded4]
  split_ifs with h
  · obtain ⟨rfl, hbl, -⟩ := h
    have hcol := hz b hbl hb
    rw [xorSum_eq_zero fun i hi =>
      hcol i (by have := List.mem_range.mp (List.mem_filter.mp hi).1; omega)]
    have := hcol (c.DISKS - 1) (by omega)
    rw [col, Nat.sub_add_cancel hD] at this
    exact this.symm
  · rfl

theorem Wiring.setLocks {s : RaidState} (hw : Wiring c s.raidmeta) (l : List Nat) (x : Bool) :
    Wiring c (s.setLocks l x).raidmeta :=
  ⟨fun i hi => by rw [setLocks_diskn]; exact hw.diskn i hi, by rw [setLocks_valid]; exact hw.spare⟩

theorem mem_cluster {k b : Nat} (hk : k < NCLUSTERS)
    (hb : b ∈ List.range' (k * CLUSTER_SIZE) CLUSTER_SIZE) :
    b ≤ diskblockn ∧ b / CLUSTER_SIZE = k := by
  rw [List.mem_range'_1] at hb
  simp only [NCLUSTERS_eq] at hk
  simp only [diskblockn_eq, CLUSTER_SIZE] at hb ⊢
  omega

/-- The end of `loadclusterraid4` and `loadclusterraid5`: the stripes written
with every disk lock held, the cluster marked loaded, the locks given back and
the structure stored. -/
theorem loadcluster_finish {s : RaidState} {k : Nat} {Y : Nat → Nat → Block}
    (hl : ∀ i < c.DISKS, (s.raidmeta.diskinfo i).lock = ⟨false⟩) :
    (writeraidmeta c (releaseDiskLocks (List.range c.DISKS)
      (setclusterloaded k { s.setLocks (List.range c.DISKS) true with disks := Y }))) =
      .ok (let t : RaidState := { setclusterloaded k s with disks := Y }
        { t with disks := metaDisks c t }) := by
  have hfree : ∀ i ∈ List.range c.DISKS, (s.raidmeta.diskinfo i).lock = ⟨false⟩ :=
    fun i hi => hl i (List.mem_range.mp hi)
  have hback : releaseDiskLocks (List.range c.DISKS)
      (setclusterloaded k { s.setLocks (List.range c.DISKS) true with disks := Y }) =
      { setclusterloaded k s with disks := Y } := by
    rw [releaseDiskLocks_eq]
    change ((setclusterloaded k { s with disks := Y }).setLocks (List.range c.DISKS) true).setLocks
      (List.range c.DISKS) false = _
    rw [setLocks_setLocks, setLocks_of_forall (by simpa using hfree)]
    rfl
  rw [hback, writeraidmeta_free c (by simpa using hl)]

/-- `loadclusterraid5(k)` with the disk locks free: the parity of every block
of the cluster is set up from the other valid disks, the cluster is marked
loaded and the structure stored. -/
theorem loadclusterraid5_eq {s : RaidState} {k : Nat} (hw : Wiring c s.raidmeta)
    (ht : s.raidmeta.type = .RAID5) (hk : k < NCLUSTERS)
    (hl : ∀ i < c.DISKS, (s.raidmeta.diskinfo i).lock = ⟨false⟩) :
    loadclusterraid5 c k s =
      .ok (let t : RaidState :=
          { setclusterloaded k s with disks := loaded5 c (List.range' (k * CLUSTER_SIZE) CLUSTER_SIZE) s }
        { t with disks := metaDisks c t }) := by
  have hfree : ∀ i ∈ List.range c.DISKS, (s.raidmeta.diskinfo i).lock = ⟨false⟩ :=
    fun i hi => hl i (List.mem_range.mp hi)
  have hnk : ¬ NCLUSTERS ≤ k := Nat.not_le.mpr hk
  have hlocks : loaded5 c (List.range' (k * CLUSTER_SIZE) CLUSTER_SIZE)
      (s.setLocks (List.range c.DISKS) true) = loaded5 c (List.range' (k * CLUSTER_SIZE) CLUSTER_SIZE) s := by
    funext e b
    simp only [loaded5, setLocks_valid]
    rfl
  simp only [loadclusterraid5, ht, ne_eq, not_true_eq_false, if_false, hnk,
    acquireDiskLocks_free List.nodup_range hfree, Except.ok_bind,
    loadstripes5_eq c _ (hw.setLocks c (List.range c.DISKS) true) (fun b hb => (mem_cluster hk hb).1),
    hlocks]
  exact loadcluster_finish c hl

/-- `loadclusterraid4(k)` with the disk locks free: the parity of every block
of the cluster is set up from the valid data disks. -/
theorem loadclusterraid4_eq {s : RaidState} {k : Nat} (hw : Wiring c s.raidmeta)
    (ht : s.raidmeta.type = .RAID4) (hk : k < NCLUSTERS)
    (hl : ∀ i < c.DISKS, (s.raidmeta.diskinfo i).lock = ⟨false⟩) :
    loadclusterraid4 c k s =
      .ok (let t : RaidState :=
          { setclusterloaded k s with disks := loaded4 c (List.range' (k * CLUSTER_SIZE) CLUSTER_SIZE) s }
        { t with disks := metaDisks c t }) := by
  have hfree : ∀ i ∈ List.range c.DISKS, (s.raidmeta.diskinfo i).lock = ⟨false⟩ :=
    fun i hi => hl i (List.mem_range.mp hi)
  have hnk : ¬ NCLUSTERS ≤ k := Nat.not_le.mpr hk
  have hlocks : loaded4 c (List.range' (k * CLUSTER_SIZE) CLUSTER_SIZE)
      (s.setLocks (List.range c.DISKS) true) = loaded4 c (List.range' (k * CLUSTER_SIZE) CLUSTER_SIZE) s := by
    funext e b
    simp only [loaded4, setLocks_valid]
    rfl
  simp only [loadclusterraid4, ht, ne_eq, not_true_eq_false, if_false, hnk,
    acquireDiskLocks_free List.nodup_range hfree, Except.ok_bind,
    loadstripes4_eq c _ (hw.setLocks c (List.range c.DISKS) true) (fun b hb => (mem_cluster hk hb).1),
    hlocks]
  exact loadcluster_finish c hl

/-- `loadclusterraid5(k)` on a cluster whose data blocks are all zero changes no
data block. -/
theorem loadclusterraid5_zero {s : RaidState} {k : Nat} (hw : Wiring c s.raidmeta)
    (ht : s.raidmeta.type = .RAID5) (hk : k < NCLUSTERS)
    (hl : ∀ i < c.DISKS, (s.raidmeta.diskinfo i).lock = ⟨false⟩)
    (hz : ∀ b < diskblockn, b / CLUSTER_SIZE = k → ∀ i < c.DISKS, col s b i = 0) :
    ∃ Y, DataEq Y s.disks ∧ loadclusterraid5 c k s =
      .ok (let t : RaidState := { setclusterloaded k s with disks := Y }
        { t with disks := metaDisks c t }) :=
  ⟨_, loaded5_zero c fun b hb hlt => hz b hlt (mem_cluster hk hb).2,
    loadclusterraid5_eq c hw ht hk hl⟩

theorem loadclusterraid4_zero {s : RaidState} {k : Nat} (hw : Wiring c s.raidmeta)
    (ht : s.raidmeta.type = .RAID4) (hk : k < NCLUSTERS)
    (hl : ∀ i < c.DISKS, (s.raidmeta.diskinfo i).lock = ⟨false⟩)
    (hz : ∀ b < diskblockn, b / CLUSTER_SIZE = k → ∀ i < c.DISKS, col s b i = 0) :
    ∃ Y, DataEq Y s.disks ∧ loadclusterraid4 c k s =
      .ok (let t : RaidState := { setclusterloaded k s with disks := Y }
        { t with disks := metaDisks c t }) :=
  ⟨_, loaded4_zero c fun b hb hlt => hz b hlt (mem_cluster hk hb).2,
    loadclusterraid4_eq c hw ht hk hl⟩

/-- At most one of the disks `0..DISKS-1` is invalid. -/
def AtMostOneInvalid (m : RAIDMeta) : Prop :=
  ∀ i < c.DISKS, ∀ j < c.DISKS, (m.diskinfo i).valid = false → (m.diskinfo j).valid = false → i = j

theorem AtMostOneInvalid.of_valid {m m' : RAIDMeta} (h : AtMostOneInvalid c m)
    (hv : ∀ i, (m'.diskinfo i).valid = (m.diskinfo i).valid) : AtMostOneInvalid c m' := by
  intro i hi j hj
  rw [hv, hv]
  exact h i hi j hj

theorem AtMostOneInvalid.of_diskinfo {m m' : RAIDMeta} (h : AtMostOneInvalid c m)
    (hd : m'.diskinfo = m.diskinfo) : AtMostOneInvalid c m' :=
  h.of_valid c fun i => by rw [hd]

theorem AtMostOneInvalid.of_others_valid {m : RAIDMeta} {d : Nat}
    (h : ∀ k < c.DISKS, k ≠ d → (m.diskinfo k).valid = true) : AtMostOneInvalid c m := by
  intro i hi j hj hvi hvj
  have hid : i = d := by_contra fun hne => by simp [h i hi hne] at hvi
  have hjd : j = d := by_contra fun hne => by simp [h j hj hne] at hvj
  rw [hid, hjd]

theorem otherinvalid_eq_false {s : RaidState} {d : Nat} (hone : AtMostOneInvalid c s.raidmeta)
    (hd : d < c.DISKS) (hvd : (s.raidmeta.diskinfo d).valid = false) : otherinvalid c d s = false := by
  simp only [otherinvalid, List.any_eq_false, List.mem_range, Bool.and_eq_true, bne_iff_ne,
    Bool.not_eq_true', not_and]
  intro i hi hid hvi
  exact hid (hone i hi d hd hvi hvd)

/-- What block `b` of disk index `i` holds for a reader: the block itself on a
valid disk, the exclusive-or of the other disks' blocks on an invalid one. -/
def eff (s : RaidState) (i b : Nat) : Block :=
  if (s.raidmeta.diskinfo i).valid then col s b i else xorSum (col s b) (others c i)

/-- The disks after the three write paths of RAID4 and RAID5 store `v` on data
disk `d` of stripe `st`, whose parity is on disk `p`. -/
def stripeWrite (s : RaidState) (d p st : Nat) (v : Block) : RaidState :=
  if !(s.raidmeta.diskinfo d).valid then
    s.setBlock (p + 1) st (col s st p ^^^ (xorSum (col s st) (others c d) ^^^ v))
  else if !(s.raidmeta.diskinfo p).valid then s.setBlock (d + 1) st v
  else (s.setBlock (d + 1) st v).setBlock (p + 1) st (col s st p ^^^ (col s st d ^^^ v))

@[simp] theorem stripeWrite_raidmeta (s : RaidState) (d p st : Nat) (v : Block) :
    (stripeWrite c s d p st v).raidmeta = s.raidmeta := by
  unfold stripeWrite
  split_ifs <;> rfl

/-- The stripe, one block on every disk, that holds virtual block `x` of RAID4
and RAID5: each stripe holds `DISKS - 1` virtual blocks. -/
def stripeOf (x : Nat) : Nat := x / (c.DISKS - 1)

/-- The parity of a RAID5 stripe is on disk index `stripe % DISKS`. -/
def raid5parity (x : Nat) : Nat := stripeOf c x % c.DISKS

/-- The data disks of a RAID5 stripe follow its parity disk cyclically. -/
def raid5disk (x : Nat) : Nat := (raid5parity c x + 1 + x % (c.DISKS - 1)) % c.DISKS

section Update

variable {t : RaidState} {d p st : Nat} (v : Block)

@[simp] theorem col_setLocks (l : List Nat) (x : Bool) (b : Nat) :
    col (t.setLocks l x) b = col t b := rfl

@[simp] theorem col_setDiskinfo (i : Nat) (e : DiskInfo) (b : Nat) :
    col (t.setDiskinfo i e) b = col t b := rfl

theorem two_locks_writes {a b d₁ d₂ st₁ st₂ : Nat} {v₁ v₂ : Block} (hab : a ≠ b)
    (ha : (t.raidmeta.diskinfo a).lock = ⟨false⟩) (hb : (t.raidmeta.diskinfo b).lock = ⟨false⟩) :
    releaseDiskLock a (releaseDiskLock b
      ((((t.setDiskinfo a { t.raidmeta.diskinfo a with lock := ⟨true⟩ }).setDiskinfo b
        { t.raidmeta.diskinfo b with lock := ⟨true⟩ }).setBlock d₁ st₁ v₁).setBlock d₂ st₂ v₂)) =
      (t.setBlock d₁ st₁ v₁).setBlock d₂ st₂ v₂ := by
  simp only [releaseDiskLock_setBlock, releaseDiskLock_two hab ha hb]

/-- The write path of `raid5write` when the data disk is invalid: only the
parity block changes, by the old value the others give and the new one. -/
theorem raid5update_invalid (hw : Wiring c t.raidmeta)
    (hl : ∀ i < c.DISKS, (t.raidmeta.diskinfo i).lock = ⟨false⟩) (hp : p < c.DISKS)
    (hst : st ≤ diskblockn) (hvd : (t.raidmeta.diskinfo d).valid = false) :
    raid5update c d p st v t =
      .ok (t.setBlock (p + 1) st (col t st p ^^^ (xorSum (col t st) (others c d) ^^^ v))) := by
  have hfree : ∀ i ∈ List.range c.DISKS, (t.raidmeta.diskinfo i).lock = ⟨false⟩ :=
    fun i hi => hl i (List.mem_range.mp hi)
  have hrp : ∀ u : RaidState, read_block c (p + 1) st u = .ok (col u st p) :=
    fun _ => read_block_ok c ⟨by omega, by omega, hst⟩
  have hwp : ∀ (u : RaidState) (x : Block), write_block c (p + 1) st x u = .ok (u.setBlock (p + 1) st x) :=
    fun _ x => write_block_ok c x ⟨by omega, by omega, hst⟩
  simp only [raid5update, hvd, Bool.not_false, if_true, acquireDiskLocks_free List.nodup_range hfree,
    Except.ok_bind, readinvalidraid5, xorothers_eq c (hw.setLocks c _ _) d hst, setLocks_diskn,
    hw.diskn p hp, hrp, hwp, col_setLocks, releaseDiskLocks_eq, setBlock_setLocks, setLocks_setLocks,
    setLocks_of_forall hfree, Except.pure_eq_ok]

/-- The write path of `raid5write` when the parity disk is invalid: only the
data block is written. -/
theorem raid5update_parityinvalid (hl : ∀ i < c.DISKS, (t.raidmeta.diskinfo i).lock = ⟨false⟩)
    (hd : d < c.DISKS) (hst : st ≤ diskblockn) (hvd : (t.raidmeta.diskinfo d).valid = true)
    (hvp : (t.raidmeta.diskinfo p).valid = false) :
    raid5update c d p st v t = .ok (t.setBlock (d + 1) st v) := by
  have hwd : ∀ u : RaidState, write_block c (d + 1) st v u = .ok (u.setBlock (d + 1) st v) :=
    fun _ => write_block_ok c v ⟨by omega, by omega, hst⟩
  rw [raid5update, if_neg (by simp [hvd]), if_pos (by simp [hvp])]
  simp only [acquireDiskLock_free (hl d hd), Except.ok_bind, hwd, Except.pure_eq_ok,
    releaseDiskLock_setBlock, releaseDiskLock_acquired (hl d hd)]

/-- The write path of `raid5write` with both disks valid: the data block gets
the new value and the parity block changes by the old and the new value. -/
theorem raid5update_valid (hw : Wiring c t.raidmeta)
    (hl : ∀ i < c.DISKS, (t.raidmeta.diskinfo i).lock = ⟨false⟩) (hd : d < c.DISKS)
    (hp : p < c.DISKS) (hdp : d ≠ p) (hst : st ≤ diskblockn)
    (hvd : (t.raidmeta.diskinfo d).valid = true) (hvp : (t.raidmeta.diskinfo p).valid = true) :
    raid5update c d p st v t =
      .ok ((t.setBlock (d + 1) st v).setBlock (p + 1) st (col t st p ^^^ (col t st d ^^^ v))) := by
  have hr : ∀ (i : Nat) (u : RaidState), i < c.DISKS → read_block c (i + 1) st u = .ok (col u st i) :=
    fun _ _ hi => read_block_ok c ⟨by omega, by omega, hst⟩
  have hwr : ∀ (i : Nat) (x : Block) (u : RaidState), i < c.DISKS →
      write_block c (i + 1) st x u = .ok (u.setBlock (i + 1) st x) :=
    fun _ x _ hi => write_block_ok c x ⟨by omega, by omega, hst⟩
  have hlp : ((t.setDiskinfo d { t.raidmeta.diskinfo d with lock := ⟨true⟩ }).raidmeta.diskinfo p).lock
      = ⟨false⟩ := by
    simpa [Function.update_of_ne (Ne.symm hdp)] using hl p hp
  have hld : ((t.setDiskinfo p { t.raidmeta.diskinfo p with lock := ⟨true⟩ }).raidmeta.diskinfo d).lock
      = ⟨false⟩ := by
    simpa [Function.update_of_ne hdp] using hl d hd
  rw [raid5update, if_neg (by simp [hvd]), if_neg (by simp [hvp])]
  by_cases hlt : d < p
  · simp only [hlt, if_true, acquireDiskLock_free (hl d hd), acquireDiskLock_free hlp,
      Except.ok_bind, setDiskinfo_raidmeta_diskinfo, Function.update_of_ne (Ne.symm hdp),
      Function.update_self, hw.diskn p hp, hr d _ hd, hr p _ hp, hwr d _ _ hd, hwr p _ _ hp,
      col_setDiskinfo, Except.pure_eq_ok]
    rw [two_locks_writes hdp (hl d hd) (hl p hp)]
  · simp only [hlt, if_false, acquireDiskLock_free (hl p hp), acquireDiskLock_free hld,
      Except.ok_bind, setDiskinfo_raidmeta_diskinfo, Function.update_of_ne (Ne.symm hdp),
      Function.update_of_ne hdp,
      Function.update_self, hw.diskn p hp, hr d _ hd, hr p _ hp, hwr d _ _ hd, hwr p _ _ hp,
      col_setDiskinfo, Except.pure_eq_ok]
    rw [two_locks_writes (Ne.symm hdp) (hl p hp) (hl d hd)]

theorem raid4update_invalid (hw : Wiring c t.raidmeta)
    (hl : ∀ i < c.DISKS, (t.raidmeta.diskinfo i).lock = ⟨false⟩) (hst : st ≤ diskblockn)
    (hvd : (t.raidmeta.diskinfo d).valid = false) :
    raid4update c d st v t =
      .ok (t.setBlock c.DISKS st (t.disks c.DISKS st ^^^ (xorSum (col t st) (others c d) ^^^ v))) := by
  have hD := c.one_le_DISKS
  have hfree : ∀ i ∈ List.range c.DISKS, (t.raidmeta.diskinfo i).lock = ⟨false⟩ :=
    fun i hi => hl i (List.mem_range.mp hi)
  have hrp : ∀ u : RaidState, read_block c c.DISKS st u = .ok (u.disks c.DISKS st) :=
    fun _ => read_block_ok c ⟨hD, Nat.le_refl _, hst⟩
  have hwp : ∀ (u : RaidState) (x : Block), write_block c c.DISKS st x u =
      .ok (u.setBlock c.DISKS st x) :=
    fun _ x => write_block_ok c x ⟨hD, Nat.le_refl _, hst⟩
  simp only [raid4update, hvd, Bool.not_false, if_true, acquireDiskLocks_free List.nodup_range hfree,
    Except.ok_bind, readinvalidraid4, xorothers_eq c (hw.setLocks c _ _) d hst, hrp, hwp,
    col_setLocks, setLocks_disks, releaseDiskLocks_eq, setBlock_setLocks, setLocks_setLocks,
    setLocks_of_forall hfree, Except.pure_eq_ok]

theorem raid4update_parityinvalid (hl : ∀ i < c.DISKS, (t.raidmeta.diskinfo i).lock = ⟨false⟩)
    (hd : d < c.DISKS) (hst : st ≤ diskblockn) (hvd : (t.raidmeta.diskinfo d).valid = true)
    (hvp : (t.raidmeta.diskinfo (c.DISKS - 1)).valid = false) :
    raid4update c d st v t = .ok (t.setBlock (d + 1) st v) := by
  have hwd : ∀ u : RaidState, write_block c (d + 1) st v u = .ok (u.setBlock (d + 1) st v) :=
    fun _ => write_block_ok c v ⟨by omega, by omega, hst⟩
  rw [raid4update, if_neg (by simp [hvd]), if_pos (by simp [hvp])]
  simp only [acquireDiskLock_free (hl d hd), Except.ok_bind, hwd, Except.pure_eq_ok,
    releaseDiskLock_setBlock, releaseDiskLock_acquired (hl d hd)]

theorem raid4update_valid (hl : ∀ i < c.DISKS, (t.raidmeta.diskinfo i).lock = ⟨false⟩)
    (hd : d < c.DISKS - 1) (hst : st ≤ diskblockn) (hvd : (t.raidmeta.diskinfo d).valid = true)
    (hvp : (t.raidmeta.diskinfo (c.DISKS - 1)).valid = true) :
    raid4update c d st v t =
      .ok ((t.setBlock (d + 1) st v).setBlock c.DISKS st
        (t.disks c.DISKS st ^^^ (t.disks (d + 1) st ^^^ v))) := by
  have hD := c.one_le_DISKS
  have hne : d ≠ c.DISKS - 1 := by omega
  have hrd : ∀ u : RaidState, read_block c (d + 1) st u = .ok (u.disks (d + 1) st) :=
    fun _ => read_block_ok c ⟨by omega, by omega, hst⟩
  have hrp : ∀ u : RaidState, read_block c c.DISKS st u = .ok (u.disks c.DISKS st) :=
    fun _ => read_block_ok c ⟨hD, Nat.le_refl _, hst⟩
  have hwd : ∀ (u : RaidState) (x : Block), write_block c (d + 1) st x u =
      .ok (u.setBlock (d + 1) st x) :=
    fun _ x => write_block_ok c x ⟨by omega, by omega, hst⟩
  have hwp : ∀ (u : RaidState) (x : Block), write_block c c.DISKS st x u =
      .ok (u.setBlock c.DISKS st x) :=
    fun _ x => write_block_ok c x ⟨hD, Nat.le_refl _, hst⟩
  have hlp : ((t.setDiskinfo d { t.raidmeta.diskinfo d with lock := ⟨true⟩ }).raidmeta.diskinfo
      (c.DISKS - 1)).lock = ⟨false⟩ := by
    simpa [Function.update_of_ne (Ne.symm hne)] using hl (c.DISKS - 1) (by omega)
  rw [raid4update, if_neg (by simp [hvd]), if_neg (by simp [hvp])]
  simp only [acquireDiskLock_free (hl d (by omega)), acquireDiskLock_free hlp, Except.ok_bind, hrd,
    hrp, hwd, hwp, setDiskinfo_disks, Except.pure_eq_ok, setDiskinfo_raidmeta_diskinfo,
    Function.update_of_ne (Ne.symm hne)]
  rw [two_locks_writes hne (hl d (by omega)) (hl (c.DISKS - 1) (by omega))]

/-- `raid5update` stores the block by one of the three paths of `stripeWrite`. -/
theorem raid5update_eq (hw : Wiring c t.raidmeta)
    (hl : ∀ i < c.DISKS, (t.raidmeta.diskinfo i).lock = ⟨false⟩) (hd : d < c.DISKS)
    (hp : p < c.DISKS) (hdp : d ≠ p) (hst : st ≤ diskblockn) :
    raid5update c d p st v t = .ok (stripeWrite c t d p st v) := by
  by_cases hvd : (t.raidmeta.diskinfo d).valid
  · by_cases hvp : (t.raidmeta.diskinfo p).valid
    · rw [raid5update_valid c v hw hl hd hp hdp hst hvd hvp]
      simp [stripeWrite, hvd, hvp]
    · rw [raid5update_parityinvalid c v hl hd hst hvd (Bool.eq_false_iff.mpr hvp)]
      simp [stripeWrite, hvd, hvp]
  · rw [raid5update_invalid c v hw hl hp hst (Bool.eq_false_iff.mpr hvd)]
    simp [stripeWrite, hvd]

theorem raid4update_eq (hw : Wiring c t.raidmeta)
    (hl : ∀ i < c.DISKS, (t.raidmeta.diskinfo i).lock = ⟨false⟩) (hd : d < c.DISKS - 1)
    (hst : st ≤ diskblockn) :
    raid4update c d st v t = .ok (stripeWrite c t d (c.DISKS - 1) st v) := by
  have hD := c.one_le_DISKS
  have hlast : c.DISKS - 1 + 1 = c.DISKS := Nat.sub_add_cancel hD
  by_cases hvd : (t.raidmeta.diskinfo d).valid
  · by_cases hvp : (t.raidmeta.diskinfo (c.DISKS - 1)).valid
    · rw [raid4update_valid c v hl hd hst hvd hvp]
      simp [stripeWrite, hvd, hvp, hlast, col]
    · rw [raid4update_parityinvalid c v hl (by omega) hst hvd (Bool.eq_false_iff.mpr hvp)]
      simp [stripeWrite, hvd, hvp]
  · rw [raid4update_invalid c v hw hl hst (Bool.eq_false_iff.mpr hvd)]
    simp [stripeWrite, hvd, hlast, col]

end Update

theorem stripeWrite_disks_eq {t u : RaidState} {d p st : Nat} (v : Block)
    (hm : t.raidmeta.diskinfo = u.raidmeta.diskinfo) (hX : t.disks = u.disks) :
    (stripeWrite c t d p st v).disks = (stripeWrite c u d p st v).disks := by
  have hcol : col t st = col u st := funext fun i => by rw [col, col, hX]
  have hset : ∀ {t u : RaidState} (e : Nat) (w : Block), t.disks = u.disks →
      (t.setBlock e st w).disks = (u.setBlock e st w).disks := by
    intro t u e w h
    simp only [setBlock, h]
  unfold stripeWrite
  rw [hm, hcol]
  split_ifs
  · exact hset _ _ hX
  · exact hset _ _ hX
  · exact hset _ _ (hset _ _ hX)

/-- `stripeWrite` reads only the stripe it writes, so states that agree on the
data blocks and the disk entries give results that agree on the data blocks. -/
theorem stripeWrite_congr {t u : RaidState} {d p st : Nat} (v : Block)
    (hm : t.raidmeta.diskinfo = u.raidmeta.diskinfo) (hX : DataEq t.disks u.disks)
    (hst : st < diskblockn) :
    DataEq (stripeWrite c t d p st v).disks (stripeWrite c u d p st v).disks := by
  have hcol : col t st = col u st := funext fun i => hX (i + 1) st hst
  have hset : ∀ {t u : RaidState} (e : Nat) (w : Block), DataEq t.disks u.disks →
      DataEq (t.setBlock e st w).disks (u.setBlock e st w).disks := by
    intro t u e w h e' b hb
    by_cases he : e' = e
    · subst he
      by_cases hb' : b = st
      · subst hb'
        simp
      · simp [Function.update_of_ne hb', h e' b hb]
    · simp [Function.update_of_ne he, h e' b hb]
  unfold stripeWrite
  rw [hm, hcol]
  split_ifs
  · exact hset _ _ hX
  · exact hset _ _ hX
  · exact hset _ _ (hset _ _ hX)

end Xv6Raid
