import Xv6Raid.Spec.Meta

/-!
The mirrored pairs by their effect. With the structure quiet, `readdiskpair`
reads the first valid disk of the pair and `writediskpair` writes every valid
disk of it; both return `-1` when neither disk is valid. The mirror repair
copies every block of the partner onto the repaired disk and marks it valid.
RAID1 and RAID0_1 reach a pair through their own address arithmetic.
-/

namespace Xv6Raid

open RaidState

variable (c : Config)

section Pair

variable {s : RaidState} {p b : Nat}

/-- What a read of a pair gives: block `b` of its first disk when that disk is
valid, of the second otherwise. -/
def pairRead (s : RaidState) (dp : DiskPair) (b : Nat) : Block :=
  if (s.raidmeta.diskinfo (dp.disk 0)).valid then s.disks (dp.disk 0 + 1) b
  else s.disks (dp.disk 1 + 1) b

/-- A pair whose disks are numbered as their entries say. -/
def PairWired (s : RaidState) (dp : DiskPair) : Prop :=
  ∀ k : Fin 2, (s.raidmeta.diskinfo (dp.disk k)).valid = true →
    dp.disk k < c.DISKS ∧ (s.raidmeta.diskinfo (dp.disk k)).diskn.toNat = dp.disk k + 1

theorem readdiskpair_spec (data : Block) (hq : Quiet s.raidmeta)
    (hw : PairWired c s (s.raidmeta.data.diskpair p)) (hb : b ≤ diskblockn) :
    readdiskpair c p b data s =
      if !(s.raidmeta.diskinfo ((s.raidmeta.data.diskpair p).disk 0)).valid &&
        !(s.raidmeta.diskinfo ((s.raidmeta.data.diskpair p).disk 1)).valid
      then .ok (-1, data, s) else .ok (0, pairRead s (s.raidmeta.data.diskpair p) b, s) := by
  have hrd := hq.reading p
  have hwr := hq.writing p
  by_cases ha : (s.raidmeta.diskinfo ((s.raidmeta.data.diskpair p).disk 0)).valid
  · have hr : ∀ u : RaidState, read_block c ((s.raidmeta.data.diskpair p).disk 0 + 1) b u =
        .ok (u.disks ((s.raidmeta.data.diskpair p).disk 0 + 1) b) :=
      fun _ => read_block_ok c ⟨by omega, (hw 0 ha).1, hb⟩
    simp [readdiskpair, acquireMutex, releaseMutex, acquireDiskLock, releaseDiskLock, readslot, ha,
      hwr, hrd, pairRead, hq.mutex p, hq.disklock, (hw 0 ha).2, hr]
    rw [setDiskinfo_of_eq (by ext <;> simp [ha, hq.disklock]), setDiskpair_of_eq]
    ext <;> simp [hq.mutex p, hwr, hrd, Function.update_apply]
  · by_cases he : (s.raidmeta.diskinfo ((s.raidmeta.data.diskpair p).disk 1)).valid
    · have hr : ∀ u : RaidState, read_block c ((s.raidmeta.data.diskpair p).disk 1 + 1) b u =
          .ok (u.disks ((s.raidmeta.data.diskpair p).disk 1 + 1) b) :=
        fun _ => read_block_ok c ⟨by omega, (hw 1 he).1, hb⟩
      simp [readdiskpair, acquireMutex, releaseMutex, acquireDiskLock, releaseDiskLock, readslot,
        ha, he, hwr, hrd, pairRead, hq.mutex p, hq.disklock, (hw 1 he).2, hr]
      rw [setDiskinfo_of_eq (by ext <;> simp [he, hq.disklock]), setDiskpair_of_eq]
      ext <;> simp [hq.mutex p, hwr, hrd, Function.update_apply]
    · simp [readdiskpair, acquireMutex, releaseMutex, ha, he, hq.mutex p]
      rw [setDiskpair_of_eq]
      ext <;> simp [hq.mutex p]

/-- Block `b` of disk index `k` set to `v` when the disk is valid. -/
def setIfValid (s : RaidState) (k b : Nat) (v : Block) : RaidState :=
  if (s.raidmeta.diskinfo k).valid then s.setBlock (k + 1) b v else s

@[simp] theorem setIfValid_raidmeta (k b : Nat) (v : Block) :
    (setIfValid s k b v).raidmeta = s.raidmeta := by
  unfold setIfValid
  split_ifs <;> rfl

theorem setIfValid_disks (k b : Nat) (v : Block) (e b' : Nat) :
    (setIfValid s k b v).disks e b' =
      if e = k + 1 ∧ b' = b ∧ (s.raidmeta.diskinfo k).valid = true then v else s.disks e b' := by
  unfold setIfValid
  by_cases hv : (s.raidmeta.diskinfo k).valid <;> by_cases he : e = k + 1 <;>
    by_cases hb : b' = b <;> simp [hv, he, hb]

/-- A write of `v` to block `b` of both valid disks of a pair. -/
def pairWrite (s : RaidState) (dp : DiskPair) (b : Nat) (v : Block) : RaidState :=
  setIfValid (setIfValid s (dp.disk 0) b v) (dp.disk 1) b v

@[simp] theorem pairWrite_raidmeta (dp : DiskPair) (v : Block) :
    (pairWrite s dp b v).raidmeta = s.raidmeta := by
  simp [pairWrite]

theorem pairWrite_disks (dp : DiskPair) (v : Block) (e b' : Nat) :
    (pairWrite s dp b v).disks e b' =
      if b' = b ∧ (e = dp.disk 0 + 1 ∧ (s.raidmeta.diskinfo (dp.disk 0)).valid = true ∨
        e = dp.disk 1 + 1 ∧ (s.raidmeta.diskinfo (dp.disk 1)).valid = true) then v
      else s.disks e b' := by
  simp only [pairWrite, setIfValid_disks, setIfValid_raidmeta]
  by_cases hb : b' = b
  · by_cases h₁ : e = dp.disk 1 + 1 ∧ (s.raidmeta.diskinfo (dp.disk 1)).valid = true
    · simp [hb, h₁]
    · by_cases h₀ : e = dp.disk 0 + 1 ∧ (s.raidmeta.diskinfo (dp.disk 0)).valid = true
      · simp [hb, h₀]
      · simp [hb, h₀, h₁]
  · simp [hb]

theorem writediskpair_spec (v : Block) (hq : Quiet s.raidmeta)
    (hw : PairWired c s (s.raidmeta.data.diskpair p))
    (hne : (s.raidmeta.data.diskpair p).disk 0 ≠ (s.raidmeta.data.diskpair p).disk 1)
    (hb : b ≤ diskblockn) :
    writediskpair c p b v s =
      if !(s.raidmeta.diskinfo ((s.raidmeta.data.diskpair p).disk 0)).valid &&
        !(s.raidmeta.diskinfo ((s.raidmeta.data.diskpair p).disk 1)).valid
      then .ok (-1, s) else .ok (0, pairWrite s (s.raidmeta.data.diskpair p) b v) := by
  have hrd := hq.reading p
  have hwr := hq.writing p
  have hwb : ∀ (k : Fin 2) (u : RaidState), (s.raidmeta.diskinfo ((s.raidmeta.data.diskpair p).disk k)).valid →
      write_block c ((s.raidmeta.data.diskpair p).disk k + 1) b v u =
        .ok (u.setBlock ((s.raidmeta.data.diskpair p).disk k + 1) b v) :=
    fun k _ hv => write_block_ok c v ⟨by omega, (hw k hv).1, hb⟩
  by_cases ha : (s.raidmeta.diskinfo ((s.raidmeta.data.diskpair p).disk 0)).valid <;>
    by_cases he : (s.raidmeta.diskinfo ((s.raidmeta.data.diskpair p).disk 1)).valid
  · simp [writediskpair, acquireMutex, releaseMutex, acquireDiskLock, releaseDiskLock, hq.mutex p,
      ha, he, hwr, hrd, hq.disklock, Function.update_of_ne hne, Function.update_of_ne (Ne.symm hne),
      writemirrors, (hw 0 ha).2, (hw 1 he).2, hwb 0 _ ha, hwb 1 _ he, pairWrite, setIfValid]
    rw [setDiskinfo_twice hne]
    congr 2
    rw [setDiskinfo_of_eq, setDiskinfo_of_eq, setDiskpair_of_eq]
    all_goals ext <;> simp [hq.mutex p, hwr, ha, he, hq.disklock, Function.update_of_ne (Ne.symm hne)]
  · simp [writediskpair, acquireMutex, releaseMutex, acquireDiskLock, releaseDiskLock, hq.mutex p,
      ha, he, hwr, hrd, hq.disklock, Function.update_of_ne hne, Function.update_of_ne (Ne.symm hne),
      writemirrors, (hw 0 ha).2, hwb 0 _ ha, pairWrite, setIfValid]
    rw [setDiskinfo_twice hne]
    congr 1
    rw [setDiskinfo_of_eq, setDiskinfo_of_eq, setDiskpair_of_eq]
    all_goals ext <;> simp [hq.mutex p, hwr, ha, he, hq.disklock, Function.update_of_ne (Ne.symm hne)]
  · simp [writediskpair, acquireMutex, releaseMutex, acquireDiskLock, releaseDiskLock, hq.mutex p,
      ha, he, hwr, hrd, hq.disklock, Function.update_of_ne hne, Function.update_of_ne (Ne.symm hne),
      writemirrors, (hw 1 he).2, hwb 1 _ he, pairWrite, setIfValid]
    rw [setDiskinfo_twice hne]
    congr 1
    rw [setDiskinfo_of_eq, setDiskinfo_of_eq, setDiskpair_of_eq]
    all_goals ext <;> simp [hq.mutex p, hwr, ha, he, hq.disklock, Function.update_of_ne (Ne.symm hne)]
  · simp [writediskpair, acquireMutex, releaseMutex, hq.mutex p, ha, he]
    rw [setDiskpair_of_eq]
    ext <;> simp [hq.mutex p]

end Pair

section Copy

theorem copyblocks_eq {src dst : Nat} (hsrc : 1 ≤ src ∧ src ≤ c.DISKS)
    (hdst : 1 ≤ dst ∧ dst ≤ c.DISKS) (hne : src ≠ dst) (l : List Nat)
    (hl : ∀ b ∈ l, b ≤ diskblockn) (s : RaidState) :
    copyblocks c src dst l s = .ok { s with
      disks := fun d b => if d = dst ∧ b ∈ l then s.disks src b else s.disks d b } := by
  induction l generalizing s with
  | nil => simp [copyblocks]
  | cons i l ih =>
    have hi := hl i List.mem_cons_self
    have hl' : ∀ b ∈ l, b ≤ diskblockn := fun b hb => hl b (List.mem_cons_of_mem i hb)
    simp only [copyblocks, read_block_ok c ⟨hsrc.1, hsrc.2, hi⟩, write_block_ok c _ ⟨hdst.1, hdst.2, hi⟩,
      ih hl']
    congr 2
    funext d b
    by_cases hd : d = dst
    · subst hd
      by_cases hb : b = i
      · subst hb
        simp [hne]
      · simp [hb, hne]
    · simp [hd]

end Copy

section Repair

variable {s : RaidState} {p partner d : Nat}

/-- The RAID1 and RAID0_1 repair of disk entry `d` from its valid `partner`, with
the structure quiet: every block of the partner copied onto disk `d`, and `d`
valid. -/
theorem mirrorrepair_eq (hq : Quiet s.raidmeta) (hw : Wiring c s.raidmeta) (hd : d < c.DISKS)
    (hpd : partner < c.DISKS) (hne : partner ≠ d)
    (hpair : (s.raidmeta.data.diskpair p).disk 0 ≠ (s.raidmeta.data.diskpair p).disk 1) :
    mirrorrepair c p partner d s = .ok { s.setDiskinfo d { s.raidmeta.diskinfo d with valid := true } with
      disks := fun e b => if e = d + 1 ∧ b ≤ diskblockn then s.disks (partner + 1) b else s.disks e b } := by
  have hm := hq.mutex p
  -- the pair with its writer flag raised, and the disks after the copy
  set s₂ := s.setDiskpair p { s.raidmeta.data.diskpair p with writing := true }
  set X : Nat → Nat → Block := fun e b =>
    if e = d + 1 ∧ b ≤ diskblockn then s.disks (partner + 1) b else s.disks e b
  set L := [(s.raidmeta.data.diskpair p).disk 0, (s.raidmeta.data.diskpair p).disk 1]
  have h₂ : releaseMutex p (s.setDiskpair p { s.raidmeta.data.diskpair p with
      mutex := ⟨true⟩, writing := true }) = s₂ := by
    simp [releaseMutex, s₂, hm]
  have hdn : ∀ i < c.DISKS, ((s₂.setLocks L true).raidmeta.diskinfo i).diskn.toNat = i + 1 := by
    intro i hi
    rw [setLocks_diskn]
    simp [s₂, hw.diskn i hi]
  have h₅ : copyblocks c ((s₂.setLocks L true).raidmeta.diskinfo partner).diskn.toNat
      ((s₂.setLocks L true).raidmeta.diskinfo d).diskn.toNat
      (List.range (diskblockn + 1)) (s₂.setLocks L true) = .ok { s₂.setLocks L true with disks := X } := by
    rw [hdn partner hpd, hdn d hd, copyblocks_eq c ⟨by omega, by omega⟩ ⟨by omega, by omega⟩ (by omega) _
      (fun b hb => by rw [List.mem_range] at hb; omega)]
    simp [X, s₂]
  have h₆ : releaseDiskLock ((s.raidmeta.data.diskpair p).disk 1)
      (releaseDiskLock ((s.raidmeta.data.diskpair p).disk 0) { s₂.setLocks L true with disks := X }) =
      { s₂ with disks := X } := by
    rw [show ∀ u, releaseDiskLock ((s.raidmeta.data.diskpair p).disk 1)
      (releaseDiskLock ((s.raidmeta.data.diskpair p).disk 0) u) = releaseDiskLocks L u from fun _ => rfl,
      releaseDiskLocks_eq, setLocks_disks_update, setLocks_setLocks, setLocks_of_forall]
    intro i _
    simp [s₂, hq.disklock]
  rw [mirrorrepair, acquireMutex_free hm, Except.ok_bind]
  simp only [setDiskpair_raidmeta_data_diskpair, Function.update_self, hq.writing p, hq.reading p,
    Bool.or_false, Bool.false_eq_true, if_false, setDiskpair_setDiskpair]
  have h₇ : ((({ s₂ with disks := X } : RaidState).setDiskinfo d
      { (s₂.raidmeta.diskinfo d) with valid := true }).raidmeta.data.diskpair p).mutex = ⟨false⟩ := by
    simpa [s₂] using hm
  rw [h₂, acquireDiskLock_two (s := s₂) hpair (hq.disklock _) (hq.disklock _), h₅, Except.ok_bind, h₆,
    acquireMutex_free h₇, Except.ok_bind, Except.pure_eq_ok, Except.ok.injEq]
  simp only [releaseMutex, setDiskpair_setDiskpair, setDiskpair_raidmeta_data_diskpair, Function.update_self,
    setDiskinfo_raidmeta_data]
  simp only [setDiskpair, setDiskinfo, s₂, RaidState.mk.injEq, RAIDMeta.mk.injEq, and_true, true_and,
    Function.update_idem, Function.update_self]
  rw [← hm, ← hq.writing p, Function.update_eq_self]

end Repair

section Levels

variable {s : RaidState} {x : Int}

theorem raid1read_eq (data : Block) (ht : s.raidmeta.type = .RAID1) (h0 : 0 ≤ x)
    (hx : x < raidblockn c s.raidmeta) :
    raid1read c x data s = readdiskpair c (x.toNat / diskblockn) (x.toNat % diskblockn) data s := by
  have hin : ¬ outofrange c x s := by simp only [outofrange]; omega
  have hp : x.toNat / diskblockn < (c.DISKS + 1) / 2 := by
    simp only [raidblockn, ht] at hx
    exact Nat.div_lt_of_lt_mul (by omega)
  simp [raid1read, ht, hin, diskpairAt, hp]

theorem raid1write_eq (v : Block) (ht : s.raidmeta.type = .RAID1) (h0 : 0 ≤ x)
    (hx : x < raidblockn c s.raidmeta) :
    raid1write c x v s = writediskpair c (x.toNat / diskblockn) (x.toNat % diskblockn) v s := by
  have hin : ¬ outofrange c x s := by simp only [outofrange]; omega
  have hp : x.toNat / diskblockn < (c.DISKS + 1) / 2 := by
    simp only [raidblockn, ht] at hx
    exact Nat.div_lt_of_lt_mul (by omega)
  simp [raid1write, ht, hin, diskpairAt, hp]

theorem raid0_1read_eq (data : Block) (ht : s.raidmeta.type = .RAID0_1) (h0 : 0 ≤ x)
    (hx : x < raidblockn c s.raidmeta) :
    raid0_1read c x data s =
      readdiskpair c (x.toNat % (c.DISKS / 2)) (x.toNat / (c.DISKS / 2)) data s := by
  have hin : ¬ outofrange c x s := by simp only [outofrange]; omega
  simp only [raidblockn, ht] at hx
  have hD : c.DISKS / 2 ≠ 0 := by
    intro h
    rw [h, Nat.mul_zero] at hx
    omega
  simp [raid0_1read, ht, hin, cmod, cdiv, diskpairAt, hD, Nat.mod_lt _ (Nat.pos_of_ne_zero hD)]

theorem raid0_1write_eq (v : Block) (ht : s.raidmeta.type = .RAID0_1) (h0 : 0 ≤ x)
    (hx : x < raidblockn c s.raidmeta) :
    raid0_1write c x v s =
      writediskpair c (x.toNat % (c.DISKS / 2)) (x.toNat / (c.DISKS / 2)) v s := by
  have hin : ¬ outofrange c x s := by simp only [outofrange]; omega
  simp only [raidblockn, ht] at hx
  have hD : c.DISKS / 2 ≠ 0 := by
    intro h
    rw [h, Nat.mul_zero] at hx
    omega
  simp [raid0_1write, ht, hin, cmod, cdiv, diskpairAt, hD, Nat.mod_lt _ (Nat.pos_of_ne_zero hD)]

end Levels

end Xv6Raid
