import Xv6Raid.Protocol.Deadlock
import Xv6Raid.Refinement.MirrorView

/-!
Every `read_block` and `write_block` of the RAID layer goes through
`transfer_buffer[diskn]`, which only the holder of `diskinfo[diskn-1].lock` may
use. In every run of the lock-level model on an array that `setraidtype` has
set up, with no `setraidtype` during the run, a thread about to transfer a
block names a disk `1..DISKS` and holds that disk's lock, so no two threads
transfer on one disk at once.

The argument follows each transfer to the code that created it. A point names
its disks through the pairs and the disk entries, so the run must keep both:
the pairs stay as `setraidtype` laid them out (`Good`), and each disk entry
keeps its number and the spare entry stays invalid (`Wiring`). A step changes
at most the `valid` flag of one disk of the array.
-/

namespace Xv6Raid.LockLevel

open LockProgram Threads

variable (c : Config) (T : RAID_TYPE) (P : Nat → Fin 2 → Nat)

/-- The disk number a transfer names on an array with the pairs `P` whose disk
entry `i` names disk `i + 1`. -/
def DiskRef.number : DiskRef → Nat
  | .num d => d
  | .diskn i => i + 1
  | .pairDiskn p i => P p i + 1

/-- The code at and after a point transfers blocks only on disks `1..DISKS`
whose locks it holds, and repairs a disk of the array from the other disk of
its pair. A scan over the other disks holds every disk lock. -/
def TransfersLocked : PC → Prop
  | .io r k => 1 ≤ r.number P ∧ r.number P ≤ c.DISKS ∧ held c P k (.disk (r.number P - 1)) ∧
      TransfersLocked k
  | .acq _ k | .rel _ k | .slp _ _ k | .wake _ k | .init _ k | .acqAll _ k | .relAll _ k
  | .loadScan _ _ _ _ k | .wrClear _ k => TransfersLocked k
  | .invScan _ _ k => (∀ j < c.DISKS, held c P k (.disk j)) ∧ TransfersLocked k
  | .metaWrite i k => 1 ≤ i ∧ TransfersLocked k
  | .rdDiskn p i => P p i < c.DISKS
  | .rpLoop d p e | .rpCopy d p e _ =>
      d < c.DISKS ∧ e < c.DISKS ∧ (d = P p 0 ∧ e = P p 1 ∨ d = P p 1 ∧ e = P p 0)
  | .rpValid d _ | .prGate d _ | .prBlock d _ | .prCluster d _ | .prLoaded d _ | .prScan d _ _ =>
      d < c.DISKS
  | _ => True

attribute [simp] TransfersLocked

@[simp] theorem DiskRef.number_num (n : Nat) : (DiskRef.num n).number P = n := rfl
@[simp] theorem DiskRef.number_diskn (i : Nat) : (DiskRef.diskn i).number P = i + 1 := rfl
@[simp] theorem DiskRef.number_pairDiskn (p : Nat) (i : Fin 2) :
    (DiskRef.pairDiskn p i).number P = P p i + 1 := rfl

/-- The pairs of a mirrored array of type `T` as `setraidtype` lays them out:
`(2p, 2p + 1)` for RAID1 and `(p, p + DISKS / 2)` for RAID0_1. -/
def PairLayout : Prop :=
  ∀ q, MirrorPair c T q → P q 0 = pairFirst T q ∧ P q 1 = pairSecond c T q

section Layout

variable {c T P}

/-- The pairs of an array lie on disk entries `0..DISKS`; only the second disk
of the last RAID1 pair of an odd array is the spare entry. -/
theorem PairLayout.le (hl : PairLayout c T P) {q : Nat} (hq : MirrorPair c T q) (i : Fin 2) :
    P q i ≤ c.DISKS := by
  obtain ⟨h₀, h₁⟩ := hl q hq
  rcases hq with ⟨rfl, hq⟩ | ⟨rfl, hq⟩ <;>
  · rcases Fin.exists_fin_two.mp ⟨i, rfl⟩ with rfl | rfl
    · rw [h₀]
      simp only [pairFirst]
      split_ifs <;> omega
    · rw [h₁]
      simp only [pairSecond]
      split_ifs <;> omega

theorem PairLayout.lt_of_valid (hl : PairLayout c T P) {d : RaidState} (hw : Wiring c d.raidmeta)
    {q : Nat} (hq : MirrorPair c T q) {i : Fin 2} (hv : (d.raidmeta.diskinfo (P q i)).valid = true) :
    P q i < c.DISKS := by
  refine Nat.lt_of_le_of_ne (hl.le hq i) fun he => ?_
  rw [he, hw.spare] at hv
  contradiction

theorem pairLayout_setraidtype {s₀ d : RaidState} {type : Int}
    (h : setraidtype c type s₀ = .ok (0, d)) :
    PairLayout c d.raidmeta.type (fun q => (d.raidmeta.data.diskpair q).disk) := by
  intro q hq
  unfold setraidtype at h
  rcases ht : RAID_TYPE.ofInt type with _ | t
  · simp [ht] at h
  simp only [ht] at h
  cases t with
  | RAID1 =>
    obtain ⟨hty, hdata⟩ := writeraidmeta_meta (writeraidmeta_of_finish h)
    have hty : d.raidmeta.type = .RAID1 := hty
    have hq' : q < (c.DISKS + 1) / 2 := by simpa [MirrorPair, hty] using hq
    simp [hdata, hty, initpairs, hq', pairFirst, pairSecond]
  | RAID0_1 =>
    obtain ⟨hty, hdata⟩ := writeraidmeta_meta (writeraidmeta_of_finish h)
    have hty : d.raidmeta.type = .RAID0_1 := hty
    have hq' : q < c.DISKS / 2 := by simpa [MirrorPair, hty] using hq
    simp [hdata, hty, initpairs, hq', pairFirst, pairSecond]
  | RAID0 =>
    have hty : d.raidmeta.type = .RAID0 := (writeraidmeta_meta (writeraidmeta_of_finish h)).1
    simp [MirrorPair, hty] at hq
  | RAID4 | RAID5 =>
    dsimp only at h
    split_ifs at h
    · exact absurd (Prod.mk.inj (Except.ok.inj h)).1 (by decide)
    obtain ⟨hty, -⟩ := writeraidmeta_meta (writeraidmeta_of_finish h)
    simp [MirrorPair, hty, initclusters, RaidState.setRaid4] at hq

end Layout

section Entries

variable {c T P} {d : RaidState}

theorem DiskRef.get_eq_number (hw : Wiring c d.raidmeta) (hd : Good T P d) {r : DiskRef}
    (h : r.number P ≤ c.DISKS) : r.get d = r.number P := by
  cases r with
  | num n => rfl
  | diskn i => exact hw.diskn i (by simpa using h)
  | pairDiskn p i =>
    simp only [DiskRef.get, hd.2 p]
    exact hw.diskn _ (by simpa using h)

theorem datadisk_lt {t : RAID_TYPE} (h : c.DISKS - 1 ≠ 0) (x : Nat) : datadisk c t x < c.DISKS := by
  unfold datadisk
  split_ifs
  · have := Nat.mod_lt x (Nat.pos_of_ne_zero h)
    omega
  · exact Nat.mod_lt _ (by omega)

theorem paritydisk_lt {t : RAID_TYPE} (x : Nat) : paritydisk c t x < c.DISKS := by
  have := c.one_le_DISKS
  unfold paritydisk
  split_ifs
  · omega
  · exact Nat.mod_lt _ (by omega)

theorem transfersLocked_readEntry (x : Int) (d : RaidState) : TransfersLocked c P (readEntry c x d) := by
  have hmod : ∀ y, y % c.DISKS < c.DISKS := fun y => Nat.mod_lt y c.one_le_DISKS
  unfold readEntry
  dsimp only
  repeat' split
  all_goals simp_all [datadisk_lt]

theorem transfersLocked_writeEntry (x : Int) (d : RaidState) : TransfersLocked c P (writeEntry c x d) := by
  have hmod : ∀ y, y % c.DISKS < c.DISKS := fun y => Nat.mod_lt y c.one_le_DISKS
  unfold writeEntry
  dsimp only
  repeat' split
  all_goals simp_all

/-- The mirror repair of disk `n` copies from the disk in slot `k` of pair `p`
once `n` sits in the other slot. -/
theorem transfersLocked_mirrorEntry (hd : Good T P d) (hl : PairLayout c T P) (hw : Wiring c d.raidmeta)
    {n p : Nat} {k : Int} (hq : MirrorPair c T p) (hn : n < c.DISKS)
    (hk : 0 ≤ k ∧ k < 2 → k = 0 ∧ P p 1 = n ∨ k = 1 ∧ P p 0 = n) :
    TransfersLocked c P (mirrorEntry n p k d) := by
  unfold mirrorEntry
  dsimp only
  split_ifs with h hv
  · trivial
  · simp only [hd.2 p, Bool.not_eq_true', Bool.not_eq_false] at hv ⊢
    have he := hl.lt_of_valid hw hq hv
    rcases hk h with ⟨rfl, h₁⟩ | ⟨rfl, h₀⟩
    · exact ⟨hn, he, .inr ⟨h₁.symm, rfl⟩⟩
    · exact ⟨hn, he, .inl ⟨h₀.symm, rfl⟩⟩
  · trivial

/-- The repair of disk `n` finds its pair and partner by the arithmetic of
`raidrepair`: pair `n / 2` and slot `1 - n % 2` for RAID1, pair
`n % (DISKS / 2)` and slot `1 - n / (DISKS / 2)` for RAID0_1. -/
theorem transfersLocked_repairEntry (hd : Good T P d) (hl : PairLayout c T P) (hw : Wiring c d.raidmeta)
    (n : Int) : TransfersLocked c P (repairEntry c n d) := by
  unfold repairEntry
  by_cases hdes : d.raidmeta.isDestroyed = true
  · simp [hdes]
  rw [if_neg hdes]
  by_cases hr : n - 1 < 0 ∨ (c.DISKS : Int) ≤ n - 1
  · rw [if_pos hr]
    trivial
  have hn : (n - 1).toNat < c.DISKS := by omega
  rw [if_neg hr]
  dsimp only
  generalize (n - 1).toNat = e at hn ⊢
  by_cases hv : (d.raidmeta.diskinfo e).valid = true
  · rw [if_pos hv]
    trivial
  rw [if_neg hv, hd.1]
  cases T with
  | RAID0 => trivial
  | RAID1 =>
    have hq : MirrorPair c .RAID1 (e / 2) := .inl ⟨rfl, by omega⟩
    obtain ⟨h₀, h₁⟩ := hl _ hq
    simp only [pairFirst, pairSecond, if_true] at h₀ h₁
    refine transfersLocked_mirrorEntry hd hl hw hq hn fun _ => ?_
    omega
  | RAID0_1 =>
    dsimp only
    split_ifs with h2
    · trivial
    have hD2 : 0 < c.DISKS / 2 := Nat.pos_of_ne_zero h2
    have hq : MirrorPair c .RAID0_1 (e % (c.DISKS / 2)) := .inr ⟨rfl, Nat.mod_lt _ hD2⟩
    obtain ⟨h₀, h₁⟩ := hl _ hq
    simp only [pairFirst, pairSecond, reduceCtorEq, if_false] at h₀ h₁
    refine transfersLocked_mirrorEntry hd hl hw hq hn fun hk => ?_
    -- the slot is in range only for the disks of the two halves
    have hdm := Nat.div_add_mod e (c.DISKS / 2)
    have hhalf : e / (c.DISKS / 2) = 0 ∨ e / (c.DISKS / 2) = 1 := by omega
    rcases hhalf with h | h <;> simp only [h, mul_zero, mul_one] at hdm ⊢ <;> omega
  | RAID4 | RAID5 =>
    dsimp only
    split_ifs
    · trivial
    · exact hn

end Entries

section Steps

variable {c T P} {d : RaidState}

theorem valid_of_readslot {dp : DiskPair} {m : RAIDMeta} {i : Fin 2} (h : readslot dp m = some i) :
    (m.diskinfo (dp.disk i)).valid = true := by
  unfold readslot at h
  split_ifs at h with h0 h1 <;> cases h
  · exact (by simpa using h0 : _ ∧ _).2
  · exact (by simpa using h1 : _ ∧ _).2

/-- raid4.c names the parity disk `DISKS`, raid5.c `diskinfo[paritydiskn].diskn`;
both are the disk after the parity disk index. -/
@[simp] theorem paritynum_number {t : RAID_TYPE} (x : Nat) :
    (paritynum c t x).number P = paritydisk c t x + 1 := by
  have := c.one_le_DISKS
  unfold paritynum paritydisk
  split_ifs <;> simp
  omega

/-- A reader that claims a slot of pair `p` reads a disk of the array. -/
theorem transfersLocked_rdLoopStep (hd : Good T P d) (hl : PairLayout c T P) (hw : Wiring c d.raidmeta)
    {p : Nat} (hq : MirrorPair c T p) : TransfersLocked c P (rdLoopStep p d).2 := by
  unfold rdLoopStep
  dsimp only
  split_ifs
  · trivial
  · trivial
  · rcases hs : readslot (d.raidmeta.data.diskpair p) d.raidmeta with _ | i
    · trivial
    · have hv := valid_of_readslot hs
      rw [hd.2 p] at hv
      exact hl.lt_of_valid hw hq hv

/-- A writer of pair `p` writes each valid disk of the pair under both disk locks. -/
theorem transfersLocked_wrTestStep (hd : Good T P d) (hl : PairLayout c T P) (hw : Wiring c d.raidmeta)
    {p : Nat} (hq : MirrorPair c T p) (i : Fin 2) : TransfersLocked c P (wrTestStep p i d) := by
  unfold wrTestStep
  dsimp only
  rw [hd.2 p]
  split_ifs with hv h0
  · have := hl.lt_of_valid hw hq hv
    subst h0
    refine ⟨by simp, by simpa using this, by simp, trivial⟩
  · have := hl.lt_of_valid hw hq hv
    refine ⟨by simp, by simpa using this, ?_, trivial⟩
    rcases Fin.exists_fin_two.mp ⟨i, rfl⟩ with rfl | rfl <;> simp
  · trivial
  · trivial

/-- The block loop of `loadclusterraid4` and `loadclusterraid5` reads and
writes the disks whose locks it took all at once. -/
theorem transfersLocked_loadScanStep (t : RAID_TYPE) (k b i : Nat) {after : PC}
    (hio : TransfersLocked c P after) : TransfersLocked c P (loadScanStep c t k b i after d).2 := by
  have hD := c.one_le_DISKS
  have hmod := Nat.mod_lt b hD
  unfold loadScanStep loadparity
  dsimp only
  split_ifs <;> simp [hio, writeraidmeta]
  all_goals exact ⟨by omega, .inr (by omega)⟩

/-- The three write paths of `raid4write` and `raid5write` transfer on the
data and the parity disk under their locks, or on every disk under all locks. -/
theorem transfersLocked_wPathNext {t : RAID_TYPE} {x : Nat} (ha : WriterArgs c T t x) :
    TransfersLocked c P (wPathNext c t x d) := by
  have he := datadisk_lt (t := t) (by have := ha.2.2.1; omega : c.DISKS - 1 ≠ 0) x
  have hq := paritydisk_lt (c := c) (t := t) x
  unfold wPathNext
  dsimp only
  split_ifs
  · simp [hq]
  · simp [he]
  · -- both disks lie between the two locks `min` and `max` taken
    simp [he, hq]
    omega

/-- One step from a well-formed point keeps every transfer ahead of it under
the lock of its disk. -/
theorem transfersLocked_next {p : PC} (hp : WF c T P p) (hd : Good T P d) (hl : PairLayout c T P)
    (hw : Wiring c d.raidmeta) (hio : TransfersLocked c P p) : TransfersLocked c P (next (code c) p d).2 := by
  cases p with
  | readraid x => exact transfersLocked_readEntry x d
  | writeraid x => exact transfersLocked_writeEntry x d
  | raidrepair n => exact transfersLocked_repairEntry hd hl hw n
  | raidfail n =>
    simp only [next, code]
    unfold failStep
    split_ifs <;> simp [writeraidmeta]
  | raiddestroy =>
    simp only [next, code]
    unfold destroyStep
    split_ifs <;> simp [writeraidmeta]
  | acq l k | rel l k | wake ch k => exact hio
  | io r k => exact hio.2.2.2
  | acqAll i k | relAll i k =>
    simp only [next, code]
    split_ifs <;> exact hio
  | metaWrite i k =>
    -- `write_block(i, ...)` of disk `i` in `1..DISKS` under all the disk locks
    obtain ⟨hi, hk⟩ := hio
    simp only [next, code]
    split_ifs with hle
    · simp only [TransfersLocked, DiskRef.number_num, held]
      exact ⟨hi, hle, .inr ⟨i - 1, by omega, rfl⟩, by omega, hk⟩
    · exact ⟨by omega, hk⟩
    · exact hk
  | loadScan t k b i after => exact transfersLocked_loadScanStep t k b i hio
  | invScan e i k =>
    obtain ⟨hall, hk⟩ := hio
    simp only [next, code]
    split_ifs with hi
    · exact ⟨by simp, hi, by simpa using hall i hi, hall, hk⟩
    · exact ⟨hall, hk⟩
    · exact hk
  | rdLoop p => exact transfersLocked_rdLoopStep hd hl hw hp
  | rdDiskn p i =>
    -- the number read through `diskpair->disk[i]->diskn` is the locked disk's
    have hlt : P p i < c.DISKS := hio
    have hn : DiskRef.get d (.pairDiskn p i) = P p i + 1 :=
      DiskRef.get_eq_number hw hd (r := .pairDiskn p i) hlt
    simp [next, code, hn, hlt]
  | wrTest p i => exact transfersLocked_wrTestStep hd hl hw hp i
  | rpLoop n p e =>
    simp only [next, code]
    unfold rpLoopStep
    dsimp only
    split_ifs <;> exact hio
  | rpCopy n p e b =>
    obtain ⟨hn, he, hpair⟩ := hio
    simp only [next, code]
    unfold rpCopyNext
    split_ifs
    · simp only [TransfersLocked, DiskRef.number_diskn, held]
      refine ⟨by omega, by omega, ?_, by omega, by omega, ?_, hn, he, hpair⟩ <;>
        rcases hpair with ⟨rfl, rfl⟩ | ⟨rfl, rfl⟩ <;> simp
    · exact hn
  | wLoaded t x =>
    simp only [next, code]
    unfold wLoadedNext
    dsimp only
    split_ifs <;> trivial
  | wPath t x => exact transfersLocked_wPathNext hp
  | prGate n first =>
    simp only [next, code]
    unfold prGateStep
    dsimp only
    split_ifs <;> exact hio
  | prBlock n b =>
    have hn : n < c.DISKS := hio
    simp only [next, code]
    unfold prBlockStep
    split_ifs <;> simp [hn]
  | prCluster n b => exact hio
  | prLoaded n b =>
    have hn : n < c.DISKS := hio
    simp only [next, code]
    unfold prLoadedNext
    split_ifs <;> simp [hn]
  | prScan n b i =>
    simp only [next, code]
    unfold prScanNext
    split_ifs <;> simp_all
  | rdClear p i => trivial
  | wrLoop p =>
    simp only [next, code]
    unfold wrLoopStep
    dsimp only
    split_ifs <;> trivial
  | wrClear p k => exact hio
  | rpValid n p => simp [next, code, writeraidmeta]
  | wGate t x =>
    simp only [next, code]
    unfold wGateStep
    split_ifs <;> trivial
  | wExit =>
    simp only [next, code]
    unfold wExitStep
    dsimp only
    split_ifs <;> trivial
  | prExit =>
    simp only [next, code]
    unfold prExitStep
    dsimp only
    split_ifs <;> simp [writeraidmeta]
  | done | fault => exact hio
  | slp | init | setraidtype => exact hp.elim

end Steps

section Wiring

variable {c P} {d : RaidState}

/-- Setting one `valid` flag keeps the wiring unless it validates the spare entry. -/
theorem wiring_setValid (hw : Wiring c d.raidmeta) {i : Nat} {b : Bool} (h : b = true → i < c.DISKS) :
    Wiring c (setValid i b d).raidmeta := by
  constructor
  · intro j hj
    by_cases hji : j = i
    · subst hji
      simpa [setValid] using hw.diskn j hj
    · simpa [setValid, hji] using hw.diskn j hj
  · by_cases hi : c.DISKS = i
    · subst hi
      cases b
      · simp [setValid]
      · exact absurd (h rfl) (lt_irrefl _)
    · simpa [setValid, hi] using hw.spare

/-- A step changes the disk entries only by `raidfail`, which marks a disk
invalid, and by the two repairs, which mark their disk of the array valid. -/
theorem wiring_next {p : PC} (hio : TransfersLocked c P p) (hw : Wiring c d.raidmeta) :
    Wiring c (next (code c) p d).1.raidmeta := by
  cases p with
  | raidfail n =>
    simp only [next, code]
    unfold failStep
    split_ifs
    · exact hw
    · exact hw
    · exact wiring_setValid hw (by simp)
  | rpValid n p => exact wiring_setValid hw fun _ => hio
  | prBlock n b =>
    simp only [next, code]
    unfold prBlockStep
    split_ifs
    · exact hw
    · exact wiring_setValid hw fun _ => hio
  | acqAll i k | relAll i k =>
    simp only [next, code]
    split_ifs <;> exact hw
  | _ =>
    simp only [next, code, setStep, destroyStep, rdLoopStep, wrLoopStep, rpLoopStep, wGateStep,
      loadScanStep, wExitStep, prGateStep, prExitStep]
    repeat' split
    all_goals exact hw.of_diskinfo _ rfl

end Wiring

section Invariant

variable {c T P} {τ : Type*} {d : RaidState} {p : PC}

theorem transfersLocked_next_of_at (hp : At c T P d p) (hd : Good T P d) (hl : PairLayout c T P)
    (hw : Wiring c d.raidmeta) (hio : TransfersLocked c P p) : TransfersLocked c P (next (code c) p d).2 := by
  rcases hp with hp | ⟨ch, k, rfl, -, -, -⟩
  · exact transfersLocked_next hp hd hl hw hio
  · exact hio

variable (c P) in
/-- What every state of a run keeps besides `LockInv`: the disk entries stay
wired, and every transfer ahead of a thread is under the lock of its disk. -/
structure TransferInv (s : System τ) : Prop where
  wiring : Wiring c s.data.raidmeta
  locked : ∀ t, TransfersLocked c P (s.pc t)

variable {s : System τ}

theorem TransferInv.start (hs : Start d s) (hw : Wiring c d.raidmeta) : TransferInv c P s := by
  obtain ⟨hdata, -, -, hentry⟩ := hs
  refine ⟨hdata ▸ hw, fun t => ?_⟩
  have he := hentry t
  cases h : s.pc t <;> simp_all [PC.entry]

theorem transferInv_step [DecidableEq τ] (hl : PairLayout c T P) (hs : LockInv c T P s)
    (hio : TransferInv c P s) (t : τ) : TransferInv c P (step (code c) s t) := by
  rcases step_moves (code c) s t with h | hm
  · rw [h]
    exact hio
  obtain ⟨hdata, hpc⟩ := hm.next_eq
  refine ⟨?_, fun u => ?_⟩
  · rw [hdata]
    exact wiring_next (hio.locked t) hio.wiring
  · rw [hpc]
    by_cases hut : u = t
    · subst hut
      rw [Function.update_self]
      exact transfersLocked_next_of_at (hs.at_ u) hs.good hl hio.wiring (hio.locked u)
    · rw [Function.update_of_ne hut]
      exact hio.locked u

theorem transferInv_of_reachable [DecidableEq τ] (hup : SetUp c T P d) (hl : PairLayout c T P)
    (hw : Wiring c d.raidmeta) (h : Reachable (Calls d) (step (code c)) s) : TransferInv c P s := by
  induction h with
  | init hs => exact TransferInv.start hs.1 hw
  | step t hr ih => exact transferInv_step hl (lockInv_of_reachable hup.ordered hup.good hr) ih t

/-- A thread about to transfer on disk `r` names a disk of the array and holds its lock. -/
theorem TransferInv.owner_of_io (hs : LockInv c T P s) (hio : TransferInv c P s) {t : τ} {r : DiskRef} {k : PC}
    (hpc : s.pc t = .io r k) :
    1 ≤ r.get s.data ∧ r.get s.data ≤ c.DISKS ∧ s.owner (.disk (r.get s.data - 1)) = some t := by
  have hlk := hio.locked t
  rw [hpc] at hlk
  obtain ⟨h₁, h₂, hheld, -⟩ := hlk
  rw [DiskRef.get_eq_number hio.wiring hs.good h₂]
  refine ⟨h₁, h₂, (hs.owned _ t).mpr ?_⟩
  rw [hpc]
  exact hheld

end Invariant

section Transfers

variable {c} {τ : Type*} [DecidableEq τ]

/-- Every transfer of the RAID layer is made under the lock of its disk. In
every state of a run of any number of threads calling `readraid`,
`writeraid`, `raidfail`, `raidrepair` and `raiddestroy` on a wired array that
`setraidtype` has set up, a thread about to call `read_block` or
`write_block` names a disk `1..DISKS`, holds that disk's lock, and is the only
thread about to transfer on that disk. -/
theorem transfers_hold_disk_lock {s₀ d : RaidState} {type : Int}
    (hset : setraidtype c type s₀ = .ok (0, d)) (hw : Wiring c d.raidmeta) {s : System τ}
    (hrun : Reachable (Calls d) (step (code c)) s) {t : τ} {r : DiskRef} {k : PC}
    (hpc : s.pc t = .io r k) :
    1 ≤ r.get s.data ∧ r.get s.data ≤ c.DISKS ∧ s.owner (.disk (r.get s.data - 1)) = some t ∧
      ∀ u r' k', s.pc u = .io r' k' → r'.get s.data = r.get s.data → u = t := by
  have hup := setUp_setraidtype hset
  have hinv := lockInv_of_reachable hup.ordered hup.good hrun
  have hio := transferInv_of_reachable hup (pairLayout_setraidtype hset) hw hrun
  obtain ⟨h₁, h₂, hown⟩ := hio.owner_of_io hinv hpc
  refine ⟨h₁, h₂, hown, fun u r' k' hu heq => ?_⟩
  have hown' := (hio.owner_of_io hinv hu).2.2
  rw [heq, hown] at hown'
  exact (Option.some.inj hown').symm

def twoReaders : System (Fin 2) :=
  ⟨raid4Array, fun _ => none, fun t => if t = 0 then .readraid 0 else .readraid 2, fun _ => none⟩

theorem wiring_raid4Array : Wiring threeDisks raid4Array.raidmeta := by
  refine ⟨fun i hi => ?_, rfl⟩
  change i < 3 at hi
  interval_cases i <;> rfl

/-- The first reader transfers on disk 1 under its lock; the second has
found the lock taken. -/
theorem transfers_hold_disk_lock_two_readers :
    let s := [0, 0, 1, 1].foldl (step (code threeDisks)) twoReaders
    1 ≤ (DiskRef.num 1).get s.data ∧ (DiskRef.num 1).get s.data ≤ threeDisks.DISKS ∧
      s.owner (.disk ((DiskRef.num 1).get s.data - 1)) = some 0 ∧
      ∀ u r' k', s.pc u = .io r' k' → r'.get s.data = (DiskRef.num 1).get s.data → u = 0 := by
  intro s
  have hcalls : Calls raid4Array twoReaders := by
    refine ⟨⟨rfl, fun _ => rfl, fun _ => rfl, by decide⟩, fun t n => ?_⟩
    by_cases ht : t = 0 <;> simp [twoReaders, ht]
  have hset : setraidtype threeDisks 3 (freshState 3) = .ok (0, raid4Array) := rfl
  exact transfers_hold_disk_lock hset wiring_raid4Array ((Reachable.init hcalls).foldl _)
    (t := 0) (k := .rel (.lock (.disk 0)) .done) rfl

end Transfers

end Xv6Raid.LockLevel
