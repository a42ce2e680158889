import Xv6Raid.Lib.LockProgram
import Xv6Raid.Model.Raid

/-!
The RAID layer at the level of its locks, as programs of `LockProgram` that any
number of threads run at once: `readraid`, `writeraid`, `raidfail`,
`raidrepair`, `setraidtype` and `raiddestroy` (kernel/raid.c, raid0.c, raid1.c,
raid0_1.c, raid4.c, raid5.c) with the helpers they call.

The shared data is the `RaidState` of the sequential model; the locks are held
in the lock table of `LockProgram.Sys`, and the `locked` flags of the structure
are not read. A program point is a term: the straight-line code after a point
is written out with `acq`, `rel`, `slp`, `wake`, `io` and `init`, and each loop
or test of the source is a point of its own whose `compute` step reads and
writes the shared data and chooses the code that follows. Each such step is
the run of plain statements between two lock operations; the statements
between an `acquire` and a `release` of a spinlock, up to a `sleep`, are one
step. The block numbers of `read_block` and `write_block` are left out; the
disk numbers are kept.
-/

namespace Xv6Raid.LockLevel

open LockProgram RaidState

inductive Lock
  /-- `raidmeta.diskinfo[i].lock`, a sleeplock. -/
  | disk (i : Nat)
  /-- `raiddata->clusterlock`, a sleeplock. -/
  | cluster
  /-- `raiddata->repairlock`, a spinlock. -/
  | repair
  /-- `raiddata->diskpair[p].mutex`, a spinlock. -/
  | mutex (p : Nat)
  deriving DecidableEq

inductive Chan
  /-- `&diskpair->mutex` of pair `p`. -/
  | pair (p : Nat)
  /-- `&raiddata->writecount`. -/
  | writecount
  /-- `&raiddata->repairing`. -/
  | repairing
  deriving DecidableEq

/-- A lock as the code names it: directly, or as `diskpair->disk[i]->lock`
through the pointer stored in pair `p`. -/
inductive LockRef
  | lock (l : Lock)
  | pairDisk (p : Nat) (i : Fin 2)

/-- A disk number as the code passes it to `read_block` or `write_block`: a
number, `raidmeta.diskinfo[i].diskn`, or `diskpair->disk[i]->diskn`. -/
inductive DiskRef
  | num (d : Nat)
  | diskn (i : Nat)
  | pairDiskn (p : Nat) (i : Fin 2)

/-- The lock a reference names in state `s`. -/
def LockRef.get (s : RaidState) : LockRef → Lock
  | .lock l => l
  | .pairDisk p i => .disk ((s.raidmeta.data.diskpair p).disk i)

/-- The disk number a reference names in state `s`. -/
def DiskRef.get (s : RaidState) : DiskRef → Nat
  | .num d => d
  | .diskn i => (s.raidmeta.diskinfo i).diskn.toNat
  | .pairDiskn p i => (s.raidmeta.diskinfo ((s.raidmeta.data.diskpair p).disk i)).diskn.toNat

inductive PC
  /-- The calls, with their arguments. -/
  | readraid (vblkn : Int)
  | writeraid (vblkn : Int)
  | raidfail (diskn : Int)
  | raidrepair (diskn : Int)
  | setraidtype (type : Int)
  | raiddestroy
  /-- Straight-line code: one lock operation or transfer, then `k`. -/
  | acq (l : LockRef) (k : PC)
  | rel (l : LockRef) (k : PC)
  /-- `sleep(c, l)`, then `k`, which takes `l` again and runs the loop test. -/
  | slp (c : Chan) (l : Lock) (k : PC)
  | wake (c : Chan) (k : PC)
  | io (d : DiskRef) (k : PC)
  | init (l : Lock) (k : PC)
  /-- The call has returned. -/
  | done
  /-- The call has panicked or faulted. -/
  | fault
  /-- `for (i = 0; i < DISKS; i++) acquiresleep(&raidmeta.diskinfo[i].lock)` at
  `i`, then `k`; `relAll` releases them. -/
  | acqAll (i : Nat) (k : PC)
  | relAll (i : Nat) (k : PC)
  /-- The write loop of `writeraidmeta` at disk `i`; then the locks are
  released and `k` follows. -/
  | metaWrite (i : Nat) (k : PC)
  /-- The loop of `loadclusterraid4` (`t = RAID4`) or `loadclusterraid5` over
  cluster `clustern`, at block `b` and disk index `i`; `k` follows the call. -/
  | loadScan (t : RAID_TYPE) (clustern b i : Nat) (k : PC)
  /-- The loop of `readinvalidraid4` and `readinvalidraid5` for disk index
  `diskn`, at disk index `i`; then `k`. -/
  | invScan (diskn i : Nat) (k : PC)
  /-- `readdiskpair` for pair `p`: the `while (1)` loop under the mutex, the
  reading of `diskn` after the slot `i` is claimed, and the slot's release. -/
  | rdLoop (p : Nat)
  | rdDiskn (p : Nat) (i : Fin 2)
  | rdClear (p : Nat) (i : Fin 2)
  /-- `writediskpair` for pair `p`: the loop under the mutex, the write to
  `disk[i]` when it is valid, and `writing = 0` followed by `k`. -/
  | wrLoop (p : Nat)
  | wrTest (p : Nat) (i : Fin 2)
  | wrClear (p : Nat) (k : PC)
  /-- The RAID1 and RAID0_1 cases of `raidrepair` for disk index `diskn` of
  pair `p`, whose partner is the disk index `e`: the loop under the mutex, the
  copy loop at block `b`, and `valid = 1`. -/
  | rpLoop (diskn p e : Nat)
  | rpCopy (diskn p e b : Nat)
  | rpValid (diskn p : Nat)
  /-- `raid4write` (`t = RAID4`) and `raid5write` of block `x`: the loop
  `while (raiddata->repairing)`, the test of `cluster_loaded`, the choice of
  the write path, and the exit through `repairlock`. -/
  | wGate (t : RAID_TYPE) (x : Nat)
  | wLoaded (t : RAID_TYPE) (x : Nat)
  | wPath (t : RAID_TYPE) (x : Nat)
  | wExit
  /-- The RAID4 and RAID5 cases of `raidrepair` for disk index `diskn`: the
  wait loop (`first` on the pass that increments `repairing`), the block loop
  at block `b` with its test of `cluster_loaded` under `clusterlock` and its
  loop over disk index `i`, and the exit through `repairlock`. -/
  | prGate (diskn : Nat) (first : Bool)
  | prBlock (diskn b : Nat)
  | prCluster (diskn b : Nat)
  | prLoaded (diskn b : Nat)
  | prScan (diskn b i : Nat)
  | prExit

variable (c : Config)

/-- `writeraidmeta()`, then `k`. -/
def writeraidmeta (k : PC) : PC := .acqAll 0 (.metaWrite 1 k)

section Data

/-- `diskpair->writing = b` for pair `p`. -/
def setWriting (p : Nat) (b : Bool) (s : RaidState) : RaidState :=
  s.setDiskpair p { s.raidmeta.data.diskpair p with writing := b }

/-- `diskpair->reading[i] = b` for pair `p`. -/
def setReading (p : Nat) (i : Fin 2) (b : Bool) (s : RaidState) : RaidState :=
  s.setDiskpair p { s.raidmeta.data.diskpair p with
    reading := Function.update (s.raidmeta.data.diskpair p).reading i b }

/-- `raidmeta.diskinfo[d].valid = b`. -/
def setValid (d : Nat) (b : Bool) (s : RaidState) : RaidState :=
  s.setDiskinfo d { s.raidmeta.diskinfo d with valid := b }

/-- `raiddata->writecount += k`. -/
def addWritecount (k : Int) (s : RaidState) : RaidState :=
  s.setRaid4 { s.raidmeta.data.raid4 with writecount := s.raidmeta.data.raid4.writecount + k }

/-- `raiddata->repairing += k`. -/
def addRepairing (k : Int) (s : RaidState) : RaidState :=
  s.setRaid4 { s.raidmeta.data.raid4 with repairing := s.raidmeta.data.raid4.repairing + k }

variable {s : RaidState} {p q : Nat} {b : Bool}

@[simp] theorem setWriting_type : (setWriting p b s).raidmeta.type = s.raidmeta.type := rfl
@[simp] theorem setWriting_raid4 : (setWriting p b s).raidmeta.data.raid4 = s.raidmeta.data.raid4 :=
  rfl
@[simp] theorem setWriting_disk :
    ((setWriting p b s).raidmeta.data.diskpair q).disk = (s.raidmeta.data.diskpair q).disk := by
  by_cases h : q = p <;> simp [setWriting, h]
@[simp] theorem setWriting_writing : ((setWriting p b s).raidmeta.data.diskpair q).writing =
    if q = p then b else (s.raidmeta.data.diskpair q).writing := by
  by_cases h : q = p <;> simp [setWriting, h]
@[simp] theorem setWriting_reading :
    ((setWriting p b s).raidmeta.data.diskpair q).reading = (s.raidmeta.data.diskpair q).reading := by
  by_cases h : q = p <;> simp [setWriting, h]

@[simp] theorem setReading_type (i : Fin 2) : (setReading p i b s).raidmeta.type = s.raidmeta.type :=
  rfl
@[simp] theorem setReading_raid4 (i : Fin 2) :
    (setReading p i b s).raidmeta.data.raid4 = s.raidmeta.data.raid4 := rfl
@[simp] theorem setReading_disk (i : Fin 2) :
    ((setReading p i b s).raidmeta.data.diskpair q).disk = (s.raidmeta.data.diskpair q).disk := by
  by_cases h : q = p <;> simp [setReading, h]
@[simp] theorem setReading_writing (i : Fin 2) : ((setReading p i b s).raidmeta.data.diskpair q).writing =
    (s.raidmeta.data.diskpair q).writing := by
  by_cases h : q = p <;> simp [setReading, h]
@[simp] theorem setReading_reading (i : Fin 2) : ((setReading p i b s).raidmeta.data.diskpair q).reading =
    if q = p then Function.update (s.raidmeta.data.diskpair p).reading i b
    else (s.raidmeta.data.diskpair q).reading := by
  by_cases h : q = p <;> simp [setReading, h]

@[simp] theorem setValid_type : (setValid p b s).raidmeta.type = s.raidmeta.type := rfl
@[simp] theorem setValid_data : (setValid p b s).raidmeta.data = s.raidmeta.data := rfl

@[simp] theorem addWritecount_type (k : Int) : (addWritecount k s).raidmeta.type = s.raidmeta.type :=
  rfl
@[simp] theorem addWritecount_diskpair (k : Int) :
    (addWritecount k s).raidmeta.data.diskpair = s.raidmeta.data.diskpair := rfl
@[simp] theorem addWritecount_writecount (k : Int) : (addWritecount k s).raidmeta.data.raid4.writecount =
    s.raidmeta.data.raid4.writecount + k := rfl
@[simp] theorem addWritecount_repairing (k : Int) :
    (addWritecount k s).raidmeta.data.raid4.repairing = s.raidmeta.data.raid4.repairing := rfl

@[simp] theorem addRepairing_type (k : Int) : (addRepairing k s).raidmeta.type = s.raidmeta.type :=
  rfl
@[simp] theorem addRepairing_diskpair (k : Int) :
    (addRepairing k s).raidmeta.data.diskpair = s.raidmeta.data.diskpair := rfl
@[simp] theorem addRepairing_writecount (k : Int) :
    (addRepairing k s).raidmeta.data.raid4.writecount = s.raidmeta.data.raid4.writecount := rfl
@[simp] theorem addRepairing_repairing (k : Int) : (addRepairing k s).raidmeta.data.raid4.repairing =
    s.raidmeta.data.raid4.repairing + k := rfl

@[simp] theorem setclusterloaded_type (k : Nat) :
    (setclusterloaded k s).raidmeta.type = s.raidmeta.type := rfl
@[simp] theorem setclusterloaded_diskpair (k : Nat) :
    (setclusterloaded k s).raidmeta.data.diskpair = s.raidmeta.data.diskpair := rfl
@[simp] theorem setclusterloaded_writecount (k : Nat) :
    (setclusterloaded k s).raidmeta.data.raid4.writecount = s.raidmeta.data.raid4.writecount := rfl
@[simp] theorem setclusterloaded_repairing (k : Nat) :
    (setclusterloaded k s).raidmeta.data.raid4.repairing = s.raidmeta.data.raid4.repairing := rfl

end Data

section Layout

/-- `diskn` of `raid4write` (`vblkn % (DISKS - 1)`) and of `raid5write`
(`(paritydiskn + 1 + stripepos) % DISKS`). -/
def datadisk (t : RAID_TYPE) (x : Nat) : Nat :=
  if t = .RAID4 then x % (c.DISKS - 1)
  else (x / (c.DISKS - 1) % c.DISKS + 1 + x % (c.DISKS - 1)) % c.DISKS

/-- The parity disk index: `DISKS - 1` for RAID4, `stripe % DISKS` for RAID5. -/
def paritydisk (t : RAID_TYPE) (x : Nat) : Nat :=
  if t = .RAID4 then c.DISKS - 1 else x / (c.DISKS - 1) % c.DISKS

/-- How the writers name the parity disk to the driver: `DISKS` in raid4.c,
`diskinfo[paritydiskn].diskn` in raid5.c. -/
def paritynum (t : RAID_TYPE) (x : Nat) : DiskRef :=
  if t = .RAID4 then .num c.DISKS else .diskn (paritydisk c t x)

/-- The cluster of block `x`: `pblkn / CLUSTER_SIZE`, or `stripe / CLUSTER_SIZE`. -/
def clusterOf (x : Nat) : Nat := x / (c.DISKS - 1) / CLUSTER_SIZE

/-- The parity block of block `b` in `loadclusterraid4` (disk index `DISKS - 1`)
and `loadclusterraid5` (disk index `b % DISKS`). -/
def loadparity (t : RAID_TYPE) (b : Nat) : Nat :=
  if t = .RAID4 then c.DISKS - 1 else b % c.DISKS

end Layout

section Calls

/-- What `readraid(vblkn)` does up to its first lock: the checks of `readraid`,
then the checks of the handler, whose first lock operation follows. -/
def readEntry (x : Int) (s : RaidState) : PC :=
  if s.raidmeta.isDestroyed then .fault
  else
    match s.raidmeta.read with
    | none => .done
    | some t =>
      if s.raidmeta.type ≠ t then .fault
      else if outofrange c x s then .done
      else
        match t with
        | .RAID0 =>
          -- raid0read: `diskn = vblkn % DISKS`
          let e := x.toNat % c.DISKS
          if !(s.raidmeta.diskinfo e).valid then .done
          else .acq (.lock (.disk e)) (.io (.diskn e) (.rel (.lock (.disk e)) .done))
        | .RAID1 =>
          let p := x.toNat / diskblockn
          if (c.DISKS + 1) / 2 ≤ p then .fault else .acq (.lock (.mutex p)) (.rdLoop p)
        | .RAID0_1 =>
          if c.DISKS / 2 = 0 then .fault
          else .acq (.lock (.mutex (x.toNat % (c.DISKS / 2)))) (.rdLoop (x.toNat % (c.DISKS / 2)))
        | .RAID4 | .RAID5 =>
          if c.DISKS - 1 = 0 then .fault
          else
            let e := datadisk c t x.toNat
            if !(s.raidmeta.diskinfo e).valid then
              if otherinvalid c e s then .done
              else .acqAll 0 (.invScan e 0 (.relAll 0 .done))
            else .acq (.lock (.disk e)) (.io (.num (e + 1)) (.rel (.lock (.disk e)) .done))

/-- What `writeraid(vblkn)` does up to its first lock. -/
def writeEntry (x : Int) (s : RaidState) : PC :=
  if s.raidmeta.isDestroyed then .fault
  else
    match s.raidmeta.write with
    | none => .done
    | some t =>
      if s.raidmeta.type ≠ t then .fault
      else if outofrange c x s then .done
      else
        match t with
        | .RAID0 =>
          let e := x.toNat % c.DISKS
          if !(s.raidmeta.diskinfo e).valid then .done
          else .acq (.lock (.disk e)) (.io (.diskn e) (.rel (.lock (.disk e)) .done))
        | .RAID1 =>
          let p := x.toNat / diskblockn
          if (c.DISKS + 1) / 2 ≤ p then .fault else .acq (.lock (.mutex p)) (.wrLoop p)
        | .RAID0_1 =>
          if c.DISKS / 2 = 0 then .fault
          else .acq (.lock (.mutex (x.toNat % (c.DISKS / 2)))) (.wrLoop (x.toNat % (c.DISKS / 2)))
        | .RAID4 | .RAID5 =>
          if c.DISKS - 1 = 0 then .fault
          else
            let e := datadisk c t x.toNat
            if !(s.raidmeta.diskinfo e).valid && otherinvalid c e s then .done
            else .acq (.lock .repair) (.wGate t x.toNat)

/-- `raidfail(diskn)`: mark the disk invalid and store the structure. -/
def failStep (n : Int) (s : RaidState) : RaidState × PC :=
  if s.raidmeta.isDestroyed then (s, .fault)
  else if n - 1 < 0 ∨ (c.DISKS : Int) ≤ n - 1 then (s, .done)
  else (setValid (n - 1).toNat false s, writeraidmeta .done)

/-- The mirror case of `raidrepair` once the pair `p` and the index `k` of the
partner in it are known: `if (!pair->valid) return -1;`. -/
def mirrorEntry (d p : Nat) (k : Int) (s : RaidState) : PC :=
  if h : 0 ≤ k ∧ k < 2 then
    let e := (s.raidmeta.data.diskpair p).disk ⟨k.toNat, toNat_lt_two h⟩
    if !(s.raidmeta.diskinfo e).valid then .done else .acq (.lock (.mutex p)) (.rpLoop d p e)
  else .fault

/-- What `raidrepair(diskn)` does up to its first lock. -/
def repairEntry (n : Int) (s : RaidState) : PC :=
  if s.raidmeta.isDestroyed then .fault
  else if n - 1 < 0 ∨ (c.DISKS : Int) ≤ n - 1 then .done
  else
    let d := (n - 1).toNat
    if (s.raidmeta.diskinfo d).valid then .done
    else
      match s.raidmeta.type with
      | .RAID0 => .done
      | .RAID1 => mirrorEntry d (d / 2) (1 - (d % 2 : Nat)) s
      | .RAID0_1 =>
        if c.DISKS / 2 = 0 then .fault
        else mirrorEntry d (d % (c.DISKS / 2)) (1 - (d / (c.DISKS / 2) : Nat)) s
      | .RAID4 | .RAID5 => if otherinvalid c d s then .done else .acq (.lock .repair) (.prGate d true)

/-- `initlock(&diskpair[i].mutex)` for the pairs `0..n-1`, then `k`. -/
def initMutexes (n : Nat) (k : PC) : PC :=
  (List.range n).foldr (fun i k => .init (.mutex i) k) k

/-- `setraidtype(type)`: the plain writes in one step, then the locks it
initialises and `writeraidmeta`. -/
def setStep (type : Int) (s : RaidState) : RaidState × PC :=
  match RAID_TYPE.ofInt type with
  | none => (s, .fault)
  | some t =>
    let s := { s with raidmeta := { s.raidmeta with
      type := t, read := some t, write := some t, isDestroyed := false } }
    match t with
    | .RAID0 => (s, writeraidmeta .done)
    | .RAID1 =>
      (initpairs ((c.DISKS + 1) / 2) (fun i => 2 * i) (fun i => 2 * i + 1) s,
        initMutexes ((c.DISKS + 1) / 2) (writeraidmeta .done))
    | .RAID0_1 =>
      (initpairs (c.DISKS / 2) (fun i => i) (fun i => i + c.DISKS / 2) s,
        initMutexes (c.DISKS / 2) (writeraidmeta .done))
    | .RAID4 | .RAID5 =>
      if 1 < invalidcount c s then (s, .done)
      else (initclusters s, .init .cluster (.init .repair (writeraidmeta .done)))

/-- `raiddestroy()`. -/
def destroyStep (s : RaidState) : RaidState × PC :=
  if s.raidmeta.isDestroyed then (s, .fault)
  else ({ s with raidmeta := { s.raidmeta with isDestroyed := true } }, writeraidmeta .done)

end Calls

section Loops

/-- The `while (1)` loop of `readdiskpair` under the mutex of pair `p`. -/
def rdLoopStep (p : Nat) (s : RaidState) : RaidState × PC :=
  let dp := s.raidmeta.data.diskpair p
  if !(s.raidmeta.diskinfo (dp.disk 0)).valid && !(s.raidmeta.diskinfo (dp.disk 1)).valid then
    (s, .rel (.lock (.mutex p)) .done)
  else if dp.writing then (s, .slp (.pair p) (.mutex p) (.acq (.lock (.mutex p)) (.rdLoop p)))
  else
    match readslot dp s.raidmeta with
    | some i => (setReading p i true s, .rel (.lock (.mutex p)) (.rdDiskn p i))
    | none => (s, .slp (.pair p) (.mutex p) (.acq (.lock (.mutex p)) (.rdLoop p)))

/-- The `while (1)` loop of `writediskpair` under the mutex of pair `p`. -/
def wrLoopStep (p : Nat) (s : RaidState) : RaidState × PC :=
  let dp := s.raidmeta.data.diskpair p
  if !(s.raidmeta.diskinfo (dp.disk 0)).valid && !(s.raidmeta.diskinfo (dp.disk 1)).valid then
    (s, .rel (.lock (.mutex p)) .done)
  else if dp.writing || dp.reading 0 || dp.reading 1 then
    (s, .slp (.pair p) (.mutex p) (.acq (.lock (.mutex p)) (.wrLoop p)))
  else
    (setWriting p true s,
      .rel (.lock (.mutex p)) (.acq (.pairDisk p 0) (.acq (.pairDisk p 1) (.wrTest p 0))))

/-- `if (diskpair->disk[i]->valid) write_block(diskpair->disk[i]->diskn, ...)`,
then the next disk, or the release of both disk locks and `writing = 0`. -/
def wrTestStep (p : Nat) (i : Fin 2) (s : RaidState) : PC :=
  let k : PC := if i = 0 then .wrTest p 1
    else .rel (.pairDisk p 0) (.rel (.pairDisk p 1) (.acq (.lock (.mutex p)) (.wrClear p .done)))
  if (s.raidmeta.diskinfo ((s.raidmeta.data.diskpair p).disk i)).valid then .io (.pairDiskn p i) k
  else k

/-- The wait loop of the mirror repair under the mutex of pair `p`. -/
def rpLoopStep (d p e : Nat) (s : RaidState) : RaidState × PC :=
  let dp := s.raidmeta.data.diskpair p
  if dp.writing || dp.reading 0 || dp.reading 1 then
    (s, .slp (.pair p) (.mutex p) (.acq (.lock (.mutex p)) (.rpLoop d p e)))
  else
    (setWriting p true s,
      .rel (.lock (.mutex p)) (.acq (.pairDisk p 0) (.acq (.pairDisk p 1) (.rpCopy d p e 0))))

/-- The copy loop of the mirror repair at block `b`: read the partner `e`,
write disk `d`. -/
def rpCopyNext (d p e b : Nat) : PC :=
  if b ≤ diskblockn then .io (.diskn e) (.io (.diskn d) (.rpCopy d p e (b + 1)))
  else .rel (.pairDisk p 0) (.rel (.pairDisk p 1) (.rpValid d p))

/-- `while (raiddata->repairing) sleep(...); raiddata->writecount++;`. -/
def wGateStep (t : RAID_TYPE) (x : Nat) (s : RaidState) : RaidState × PC :=
  if s.raidmeta.data.raid4.repairing ≠ 0 then
    (s, .slp .repairing .repair (.acq (.lock .repair) (.wGate t x)))
  else (addWritecount 1 s, .rel (.lock .repair) (.acq (.lock .cluster) (.wLoaded t x)))

/-- `if (!raiddata->cluster_loaded[clustern]) loadclusterraid(clustern);` with
the checks of `loadclusterraid4` and `loadclusterraid5`. -/
def wLoadedNext (t : RAID_TYPE) (x : Nat) (s : RaidState) : PC :=
  let k := clusterOf c x
  let after : PC := .rel (.lock .cluster) (.wPath t x)
  if NCLUSTERS ≤ k then .fault
  else if s.raidmeta.data.raid4.cluster_loaded k then after
  else if s.raidmeta.type ≠ t then .fault
  else .acqAll 0 (.loadScan t k (k * CLUSTER_SIZE) 0 after)

/-- The block loop of `loadclusterraid4` and `loadclusterraid5` at block `b`
and disk index `i`: read each valid data disk, then write the parity block
when its disk is valid; after the last block, mark the cluster loaded,
release the disks and call `writeraidmeta`. -/
def loadScanStep (t : RAID_TYPE) (k b i : Nat) (after : PC) (s : RaidState) : RaidState × PC :=
  if b < k * CLUSTER_SIZE + CLUSTER_SIZE then
    let q := loadparity c t b
    if i < (if t = .RAID4 then c.DISKS - 1 else c.DISKS) then
      if (s.raidmeta.diskinfo i).valid && (t = .RAID4 || i != q) then
        (s, .io (.diskn i) (.loadScan t k b (i + 1) after))
      else (s, .loadScan t k b (i + 1) after)
    else if (s.raidmeta.diskinfo q).valid then
      (s, .io (if t = .RAID4 then .num c.DISKS else .diskn q) (.loadScan t k (b + 1) 0 after))
    else (s, .loadScan t k (b + 1) 0 after)
  else (setclusterloaded k s, .relAll 0 (writeraidmeta after))

/-- The three write paths of `raid4write` and `raid5write`, then the exit. -/
def wPathNext (t : RAID_TYPE) (x : Nat) (s : RaidState) : PC :=
  let e := datadisk c t x
  let q := paritydisk c t x
  let par := paritynum c t x
  let exit : PC := .acq (.lock .repair) .wExit
  if !(s.raidmeta.diskinfo e).valid then
    .acqAll 0 (.invScan e 0 (.io par (.io par (.relAll 0 exit))))
  else if !(s.raidmeta.diskinfo q).valid then
    .acq (.lock (.disk e)) (.io (.num (e + 1)) (.rel (.lock (.disk e)) exit))
  else
    -- raid4.c takes `diskn` then `DISKS - 1`; raid5.c the smaller index first
    let lo := min e q
    let hi := max e q
    .acq (.lock (.disk lo)) (.acq (.lock (.disk hi))
      (.io (.num (e + 1)) (.io par (.io (.num (e + 1)) (.io par
        (.rel (.lock (.disk hi)) (.rel (.lock (.disk lo)) exit)))))))

/-- `raiddata->writecount--; if (raiddata->writecount == 0) wakeup(...);`. -/
def wExitStep (s : RaidState) : RaidState × PC :=
  let s := addWritecount (-1) s
  if s.raidmeta.data.raid4.writecount = 0 then (s, .wake .writecount (.rel (.lock .repair) .done))
  else (s, .rel (.lock .repair) .done)

/-- `raiddata->repairing++` on the first pass, then `while (raiddata->writecount
!= 0 && raiddata->repairing != 0) sleep(...)`. -/
def prGateStep (d : Nat) (first : Bool) (s : RaidState) : RaidState × PC :=
  let s := if first then addRepairing 1 s else s
  if s.raidmeta.data.raid4.writecount ≠ 0 ∧ s.raidmeta.data.raid4.repairing ≠ 0 then
    (s, .slp .writecount .repair (.acq (.lock .repair) (.prGate d false)))
  else (s, .rel (.lock .repair) (.acqAll 0 (.prBlock d 0)))

/-- The block loop of the parity repair at block `b`; after it, `valid = 1`,
the disk locks are released and the repairer leaves through `repairlock`. -/
def prBlockStep (d b : Nat) (s : RaidState) : RaidState × PC :=
  if b ≤ diskblockn then (s, .prCluster d b)
  else (setValid d true s, .relAll 0 (.acq (.lock .repair) .prExit))

/-- `if (!raiddata->cluster_loaded[clustern]) { releasesleep(...); continue; }
releasesleep(...);`. -/
def prLoadedNext (d b : Nat) (s : RaidState) : PC :=
  if NCLUSTERS ≤ b / CLUSTER_SIZE then .fault
  else if s.raidmeta.data.raid4.cluster_loaded (b / CLUSTER_SIZE) then
    .rel (.lock .cluster) (.prScan d b 0)
  else .rel (.lock .cluster) (.prBlock d (b + 1))

/-- The loop over the other disks of the parity repair, then the write to
disk `d`. -/
def prScanNext (d b i : Nat) : PC :=
  if i < c.DISKS then
    if i ≠ d then .io (.diskn i) (.prScan d b (i + 1)) else .prScan d b (i + 1)
  else .io (.diskn d) (.prBlock d (b + 1))

/-- `raiddata->repairing--; if (raiddata->repairing == 0) wakeup(...);`. -/
def prExitStep (s : RaidState) : RaidState × PC :=
  let s := addRepairing (-1) s
  if s.raidmeta.data.raid4.repairing = 0 then
    (s, .wake .repairing (.rel (.lock .repair) (writeraidmeta .done)))
  else (s, .rel (.lock .repair) (writeraidmeta .done))

end Loops

/-- The instruction at each program point. -/
def code : PC → Instr RaidState PC Lock Chan
  | .readraid x => .compute fun s => (s, readEntry c x s)
  | .writeraid x => .compute fun s => (s, writeEntry c x s)
  | .raidfail n => .compute (failStep c n)
  | .raidrepair n => .compute fun s => (s, repairEntry c n s)
  | .setraidtype type => .compute (setStep c type)
  | .raiddestroy => .compute destroyStep
  | .acq l k => .acquire (LockRef.get · l) k
  | .rel l k => .release (LockRef.get · l) k
  | .slp ch l k => .sleep ch l k
  | .wake ch k => .wakeup ch k
  | .io d k => .io (DiskRef.get · d) k
  | .init l k => .init l k
  | .done | .fault => .done
  | .acqAll i k =>
    if i < c.DISKS then .acquire (fun _ => .disk i) (.acqAll (i + 1) k)
    else .compute fun s => (s, k)
  | .relAll i k =>
    if i < c.DISKS then .release (fun _ => .disk i) (.relAll (i + 1) k)
    else .compute fun s => (s, k)
  | .metaWrite i k =>
    -- `if (diskInfo->valid) write_block(i, lastblockondisk, data)` for `i` in `1..DISKS`
    .compute fun s => (s,
      if i ≤ c.DISKS then
        if (s.raidmeta.diskinfo i).valid then .io (.num i) (.metaWrite (i + 1) k)
        else .metaWrite (i + 1) k
      else .relAll 0 k)
  | .loadScan t k b i after => .compute (loadScanStep c t k b i after)
  | .invScan e i k =>
    .compute fun s => (s,
      if i < c.DISKS then
        if i ≠ e then .io (.diskn i) (.invScan e (i + 1) k) else .invScan e (i + 1) k
      else k)
  | .rdLoop p => .compute (rdLoopStep p)
  | .rdDiskn p i =>
    .compute fun s => (s,
      .acq (.pairDisk p i) (.io (.num (DiskRef.get s (.pairDiskn p i)))
        (.rel (.pairDisk p i) (.acq (.lock (.mutex p)) (.rdClear p i)))))
  | .rdClear p i =>
    .compute fun s => (setReading p i false s, .rel (.lock (.mutex p)) (.wake (.pair p) .done))
  | .wrLoop p => .compute (wrLoopStep p)
  | .wrTest p i => .compute fun s => (s, wrTestStep p i s)
  | .wrClear p k =>
    .compute fun s => (setWriting p false s, .rel (.lock (.mutex p)) (.wake (.pair p) k))
  | .rpLoop d p e => .compute (rpLoopStep d p e)
  | .rpCopy d p e b => .compute fun s => (s, rpCopyNext d p e b)
  | .rpValid d p =>
    .compute fun s =>
      (setValid d true s, .acq (.lock (.mutex p)) (.wrClear p (writeraidmeta .done)))
  | .wGate t x => .compute (wGateStep t x)
  | .wLoaded t x => .compute fun s => (s, wLoadedNext c t x s)
  | .wPath t x => .compute fun s => (s, wPathNext c t x s)
  | .wExit => .compute wExitStep
  | .prGate d first => .compute (prGateStep d first)
  | .prBlock d b => .compute (prBlockStep d b)
  | .prCluster d b => .acquire (fun _ => .cluster) (.prLoaded d b)
  | .prLoaded d b => .compute fun s => (s, prLoadedNext d b s)
  | .prScan d b i => .compute fun s => (s, prScanNext c d b i)
  | .prExit => .compute prExitStep

abbrev System (τ : Type*) := Sys RaidState PC Lock Chan τ

/-- The program points where a call starts. -/
def PC.entry : PC → Bool
  | .readraid _ | .writeraid _ | .raidfail _ | .raidrepair _ | .setraidtype _ | .raiddestroy => true
  | _ => false

/-- Threads about to make their calls on the data `d`, with every lock free. -/
def Start {τ : Type*} (d : RaidState) (s : System τ) : Prop :=
  s.data = d ∧ (∀ l, s.owner l = none) ∧ (∀ t, s.asleep t = none) ∧ ∀ t, (s.pc t).entry

end Xv6Raid.LockLevel
