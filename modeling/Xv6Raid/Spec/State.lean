import Xv6Raid.Model.Raid
import Xv6Raid.Lib.ExceptBind

/-!
What the setters of the RAID state and the lock operations change. Setters of
different parts commute, a second setter of one part overrides the first, and
a lock taken and given back leaves the state as it was, whatever the disk
accesses in between. `Quiet` is the state between two calls of a one-thread
run: no lock held, no counter up, no reader or writer inside a pair.
-/

namespace Xv6Raid

open RaidState

attribute [ext] RaidState RAIDMeta RAIDData RAID4Data DiskInfo DiskPair SleepLock SpinLock

namespace RaidState

variable (s : RaidState)

@[simp] theorem setDiskinfo_setDiskinfo (i : Nat) (d e : DiskInfo) :
    (s.setDiskinfo i d).setDiskinfo i e = s.setDiskinfo i e := by
  simp [setDiskinfo]

@[simp] theorem setRaid4_setRaid4 (r r' : RAID4Data) : (s.setRaid4 r).setRaid4 r' = s.setRaid4 r' :=
  rfl

@[simp] theorem setDiskpair_setDiskpair (p : Nat) (dp dp' : DiskPair) :
    (s.setDiskpair p dp).setDiskpair p dp' = s.setDiskpair p dp' := by
  simp [setDiskpair]

@[simp] theorem setBlock_setDiskinfo (d b : Nat) (v : Block) (i : Nat) (e : DiskInfo) :
    (s.setBlock d b v).setDiskinfo i e = (s.setDiskinfo i e).setBlock d b v := rfl

@[simp] theorem setBlock_setRaid4 (d b : Nat) (v : Block) (r : RAID4Data) :
    (s.setBlock d b v).setRaid4 r = (s.setRaid4 r).setBlock d b v := rfl

@[simp] theorem setDiskinfo_setDiskpair (i : Nat) (e : DiskInfo) (p : Nat) (dp : DiskPair) :
    (s.setDiskinfo i e).setDiskpair p dp = (s.setDiskpair p dp).setDiskinfo i e := rfl

@[simp] theorem setBlock_setDiskpair (d b : Nat) (v : Block) (p : Nat) (dp : DiskPair) :
    (s.setBlock d b v).setDiskpair p dp = (s.setDiskpair p dp).setBlock d b v := rfl

@[simp] theorem diskinfo_setRaid4 (r : RAID4Data) :
    (s.setRaid4 r).raidmeta.diskinfo = s.raidmeta.diskinfo := rfl

@[simp] theorem disks_setRaid4 (r : RAID4Data) : (s.setRaid4 r).disks = s.disks := rfl

@[simp] theorem disks_setDiskinfo (i : Nat) (e : DiskInfo) : (s.setDiskinfo i e).disks = s.disks :=
  rfl

@[simp] theorem diskinfo_setDiskpair (p : Nat) (dp : DiskPair) :
    (s.setDiskpair p dp).raidmeta.diskinfo = s.raidmeta.diskinfo := rfl

@[simp] theorem disks_setDiskpair (p : Nat) (dp : DiskPair) : (s.setDiskpair p dp).disks = s.disks :=
  rfl

variable {s}

theorem setDiskinfo_of_eq {i : Nat} {d : DiskInfo} (h : s.raidmeta.diskinfo i = d) :
    s.setDiskinfo i d = s := by
  subst h
  simp [setDiskinfo]

theorem setRaid4_of_eq {r : RAID4Data} (h : s.raidmeta.data.raid4 = r) : s.setRaid4 r = s := by
  subst h
  rfl

theorem setDiskpair_of_eq {p : Nat} {dp : DiskPair} (h : s.raidmeta.data.diskpair p = dp) :
    s.setDiskpair p dp = s := by
  subst h
  simp [setDiskpair]

@[simp] theorem setDiskinfo_lock_self {i : Nat} {l : SleepLock}
    (h : (s.raidmeta.diskinfo i).lock = l) :
    s.setDiskinfo i { s.raidmeta.diskinfo i with lock := l } = s := by
  apply setDiskinfo_of_eq
  ext <;> simp [h]

@[simps]
def setLocks (l : List Nat) (b : Bool) (s : RaidState) : RaidState :=
  { s with raidmeta := { s.raidmeta with diskinfo := fun i =>
      if i ∈ l then { s.raidmeta.diskinfo i with lock := ⟨b⟩ } else s.raidmeta.diskinfo i } }

@[simp] theorem setLocks_valid (l : List Nat) (b : Bool) (i : Nat) :
    ((s.setLocks l b).raidmeta.diskinfo i).valid = (s.raidmeta.diskinfo i).valid := by
  by_cases hi : i ∈ l <;> simp [hi]

@[simp] theorem setLocks_diskn (l : List Nat) (b : Bool) (i : Nat) :
    ((s.setLocks l b).raidmeta.diskinfo i).diskn = (s.raidmeta.diskinfo i).diskn := by
  by_cases hi : i ∈ l <;> simp [hi]

@[simp] theorem setLocks_setLocks (l : List Nat) (b b' : Bool) :
    (s.setLocks l b).setLocks l b' = s.setLocks l b' := by
  simp only [setLocks, RaidState.mk.injEq, RAIDMeta.mk.injEq, and_true, true_and]
  funext i
  by_cases hi : i ∈ l <;> simp [hi]

@[simp] theorem setBlock_setLocks (d b : Nat) (v : Block) (l : List Nat) (x : Bool) :
    (s.setBlock d b v).setLocks l x = (s.setLocks l x).setBlock d b v := rfl

theorem setLocks_of_forall {l : List Nat} {b : Bool}
    (h : ∀ i ∈ l, (s.raidmeta.diskinfo i).lock = ⟨b⟩) : s.setLocks l b = s := by
  simp only [setLocks]
  congr 2
  funext i
  by_cases hi : i ∈ l
  · simp only [hi, if_true]
    ext <;> simp [h i hi]
  · simp [hi]

end RaidState

section Locks

variable (c : Config) {s : RaidState}

theorem acquireDiskLock_free {i : Nat} (h : (s.raidmeta.diskinfo i).lock = ⟨false⟩) :
    acquireDiskLock i s = .ok (s.setDiskinfo i { s.raidmeta.diskinfo i with lock := ⟨true⟩ }) := by
  simp [acquireDiskLock, h]

@[simp] theorem releaseDiskLock_setBlock (i d b : Nat) (v : Block) :
    releaseDiskLock i (s.setBlock d b v) = (releaseDiskLock i s).setBlock d b v := rfl

theorem releaseDiskLock_acquired {i : Nat} (h : (s.raidmeta.diskinfo i).lock = ⟨false⟩) :
    releaseDiskLock i (s.setDiskinfo i { s.raidmeta.diskinfo i with lock := ⟨true⟩ }) = s := by
  simp [releaseDiskLock, h]

theorem setDiskinfo_comm {i j : Nat} (hij : i ≠ j) (d e : DiskInfo) :
    (s.setDiskinfo i d).setDiskinfo j e = (s.setDiskinfo j e).setDiskinfo i d := by
  simp only [setDiskinfo, Function.update_comm hij]

theorem setDiskinfo_twice {i j : Nat} (hij : i ≠ j) (a a' b b' : DiskInfo) :
    (((s.setDiskinfo i a).setDiskinfo j b).setDiskinfo i a').setDiskinfo j b' =
      (s.setDiskinfo i a').setDiskinfo j b' := by
  rw [setDiskinfo_comm (Ne.symm hij) b a', setDiskinfo_setDiskinfo, setDiskinfo_setDiskinfo]

/-- Two different free disk locks taken one after the other and given back in
the other order. -/
theorem releaseDiskLock_two {a b : Nat} (hab : a ≠ b) (ha : (s.raidmeta.diskinfo a).lock = ⟨false⟩)
    (hb : (s.raidmeta.diskinfo b).lock = ⟨false⟩) :
    releaseDiskLock a (releaseDiskLock b
      ((s.setDiskinfo a { s.raidmeta.diskinfo a with lock := ⟨true⟩ }).setDiskinfo b
        { s.raidmeta.diskinfo b with lock := ⟨true⟩ })) = s := by
  have hb' : ((s.setDiskinfo a { s.raidmeta.diskinfo a with lock := ⟨true⟩ }).raidmeta.diskinfo b)
      = s.raidmeta.diskinfo b := by
    simp [Function.update_of_ne (Ne.symm hab)]
  rw [← hb', releaseDiskLock_acquired (by rw [hb']; exact hb)]
  exact releaseDiskLock_acquired ha

/-- Two different free disk locks taken one after the other. -/
theorem acquireDiskLock_two {α : Type} {a b : Nat} (hab : a ≠ b)
    (ha : (s.raidmeta.diskinfo a).lock = ⟨false⟩) (hb : (s.raidmeta.diskinfo b).lock = ⟨false⟩)
    (f : RaidState → Except Fault α) :
    (do
      let s ← acquireDiskLock a s
      let s ← acquireDiskLock b s
      f s) = f (s.setLocks [a, b] true) := by
  have hb' : ((s.setDiskinfo a { s.raidmeta.diskinfo a with lock := ⟨true⟩ }).raidmeta.diskinfo b).lock =
      ⟨false⟩ := by
    simpa [Function.update_of_ne (Ne.symm hab)] using hb
  rw [acquireDiskLock_free ha, Except.ok_bind, acquireDiskLock_free hb', Except.ok_bind]
  congr 1
  simp only [setLocks, setDiskinfo, RaidState.mk.injEq, RAIDMeta.mk.injEq, and_true, true_and]
  funext i
  by_cases hia : i = a
  · subst hia
    simp [Function.update_of_ne hab]
  · by_cases hib : i = b
    · subst hib
      simp [hia]
    · simp [hia, hib]

theorem acquireDiskLocks_free {l : List Nat} (hnd : l.Nodup)
    (h : ∀ i ∈ l, (s.raidmeta.diskinfo i).lock = ⟨false⟩) :
    acquireDiskLocks l s = .ok (s.setLocks l true) := by
  induction l generalizing s with
  | nil =>
    simp only [acquireDiskLocks]
    rw [setLocks_of_forall (by simp)]
  | cons i l ih =>
    obtain ⟨hil, hnd⟩ := List.nodup_cons.mp hnd
    have hfree : ∀ j ∈ l, ((s.setDiskinfo i { s.raidmeta.diskinfo i with lock := ⟨true⟩ }).raidmeta.diskinfo j).lock = ⟨false⟩ := by
      intro j hj
      have hji : j ≠ i := fun hji => hil (hji ▸ hj)
      simpa [Function.update_of_ne hji] using h j (List.mem_cons_of_mem i hj)
    simp only [acquireDiskLocks, acquireDiskLock_free (h i List.mem_cons_self), ih hnd hfree]
    congr 1
    simp only [setLocks, setDiskinfo]
    congr 2
    funext j
    by_cases hji : j = i
    · subst hji
      simp [hil]
    · by_cases hj : j ∈ l <;> simp [hj, hji]

theorem releaseDiskLocks_eq (l : List Nat) (s : RaidState) :
    releaseDiskLocks l s = s.setLocks l false := by
  induction l generalizing s with
  | nil => simp [releaseDiskLocks, setLocks_of_forall]
  | cons i l ih =>
    rw [releaseDiskLocks, ih]
    simp only [setLocks, releaseDiskLock, setDiskinfo]
    congr 2
    funext j
    by_cases hji : j = i
    · subst hji
      by_cases hj : j ∈ l <;> simp [hj]
    · by_cases hj : j ∈ l <;> simp [hj, hji]

@[simp] theorem read_block_setLocks (d b : Nat) (l : List Nat) (x : Bool) :
    read_block c d b (s.setLocks l x) = read_block c d b s := rfl

@[simp] theorem read_block_setDiskinfo (d b i : Nat) (e : DiskInfo) :
    read_block c d b (s.setDiskinfo i e) = read_block c d b s := rfl

@[simp] theorem read_block_setRaid4 (d b : Nat) (r : RAID4Data) :
    read_block c d b (s.setRaid4 r) = read_block c d b s := rfl

@[simp] theorem read_block_setDiskpair (d b p : Nat) (dp : DiskPair) :
    read_block c d b (s.setDiskpair p dp) = read_block c d b s := rfl

theorem write_block_ok {d b : Nat} (v : Block) (h : 1 ≤ d ∧ d ≤ c.DISKS ∧ b ≤ diskblockn) :
    write_block c d b v s = .ok (s.setBlock d b v) := by
  simp [write_block, h]

theorem read_block_ok {d b : Nat} (h : 1 ≤ d ∧ d ≤ c.DISKS ∧ b ≤ diskblockn) :
    read_block c d b s = .ok (s.disks d b) := by
  simp [read_block, h]

theorem acquireClusterLock_free (h : s.raidmeta.data.raid4.clusterlock = ⟨false⟩) :
    acquireClusterLock s = .ok (s.setRaid4 { s.raidmeta.data.raid4 with clusterlock := ⟨true⟩ }) := by
  simp [acquireClusterLock, h]

theorem releaseClusterLock_acquired (h : s.raidmeta.data.raid4.clusterlock = ⟨false⟩) :
    releaseClusterLock (s.setRaid4 { s.raidmeta.data.raid4 with clusterlock := ⟨true⟩ }) = s := by
  rw [releaseClusterLock, setRaid4_setRaid4]
  apply setRaid4_of_eq
  ext <;> simp [h]

theorem acquireRepairLock_free (h : s.raidmeta.data.raid4.repairlock = ⟨false⟩) :
    acquireRepairLock s = .ok (s.setRaid4 { s.raidmeta.data.raid4 with repairlock := ⟨true⟩ }) := by
  simp [acquireRepairLock, h]

theorem acquireMutex_free {p : Nat} (h : (s.raidmeta.data.diskpair p).mutex = ⟨false⟩) :
    acquireMutex p s =
      .ok (s.setDiskpair p { s.raidmeta.data.diskpair p with mutex := ⟨true⟩ }) := by
  simp [acquireMutex, h]

end Locks

/-- Between two calls of a one-thread run: no lock of the structure is held,
the RAID4/RAID5 counters are zero and no pair has a reader or a writer inside. -/
structure Quiet (m : RAIDMeta) : Prop where
  disklock : ∀ i, (m.diskinfo i).lock = ⟨false⟩
  mutex : ∀ p, (m.data.diskpair p).mutex = ⟨false⟩
  writing : ∀ p, (m.data.diskpair p).writing = false
  reading : ∀ p i, (m.data.diskpair p).reading i = false
  clusterlock : m.data.raid4.clusterlock = ⟨false⟩
  repairlock : m.data.raid4.repairlock = ⟨false⟩
  writecount : m.data.raid4.writecount = 0
  repairing : m.data.raid4.repairing = 0

theorem Quiet.setDiskinfo {s : RaidState} (h : Quiet s.raidmeta) {i : Nat} {e : DiskInfo}
    (he : e.lock = ⟨false⟩) : Quiet (s.setDiskinfo i e).raidmeta := by
  refine ⟨fun j => ?_, h.mutex, h.writing, h.reading, h.clusterlock, h.repairlock, h.writecount,
    h.repairing⟩
  by_cases hj : j = i
  · subst hj
    simpa using he
  · simpa [Function.update_of_ne hj] using h.disklock j

end Xv6Raid
