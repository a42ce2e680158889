import Xv6Raid.Model.Striping

/-!
RAID4 (kernel/raid4.c) and RAID5 (kernel/raid5.c). Both keep, for every
block number, the exclusive-or of the data blocks in a parity block: on disk
`DISKS` for RAID4, on disk index `stripe % DISKS` for RAID5. Parity is set up
lazily, one cluster of `CLUSTER_SIZE` blocks at the first write into it.

The writer's entry and exit through `repairlock`, and the cluster check,
are the same code on the same storage in both files (the `raid4` and `raid5`
members of the union alias); they are one definition here.
-/

namespace Xv6Raid

open XorSum RaidState

variable (c : Config)

/-- The check `for (i = 0; i < DISKS; i++) if (i != diskn && !diskinfo[i].valid)
return -1;`: some disk other than `diskn` is invalid. -/
def otherinvalid (diskn : Nat) (s : RaidState) : Bool :=
  (List.range c.DISKS).any fun i => i != diskn && !(s.raidmeta.diskinfo i).valid

/-- `raiddata->cluster_loaded[clustern]`. -/
def clusterloadedAt (clustern : Nat) (s : RaidState) : Except Fault Bool :=
  if clustern < NCLUSTERS then .ok (s.raidmeta.data.raid4.cluster_loaded clustern)
  else .error .outOfBounds

/-- `raiddata->cluster_loaded[clustern] = 1`. -/
def setclusterloaded (clustern : Nat) (s : RaidState) : RaidState :=
  s.setRaid4 { s.raidmeta.data.raid4 with
    cluster_loaded := Function.update s.raidmeta.data.raid4.cluster_loaded clustern true }

/-- The exclusive-or of block `blockn` of every disk but `diskn`: the body of
`readinvalidraid4` and `readinvalidraid5`, and of the repair loop. -/
def xorothers (diskn blockn : Nat) (s : RaidState) : Except Fault Block :=
  xorFoldM (fun i => i != diskn)
    (fun i => read_block c (s.raidmeta.diskinfo i).diskn.toNat blockn s) (List.range c.DISKS) 0

/-- `readinvalidraid4(diskn, blockn, data)`: rebuild a block of the one invalid
disk. Called with every disk lock held. -/
def readinvalidraid4 (diskn blockn : Nat) (s : RaidState) : Except Fault Block :=
  xorothers c diskn blockn s

/-- `readinvalidraid5(diskn, blockn, data)`: the same loop as RAID4. -/
def readinvalidraid5 (diskn blockn : Nat) (s : RaidState) : Except Fault Block :=
  xorothers c diskn blockn s

/-- Lines `acquire(&raiddata->repairlock); while (raiddata->repairing) sleep(...);
raiddata->writecount++; release(&raiddata->repairlock);` of the writers. -/
def writerenter (s : RaidState) : Except Fault RaidState := do
  let s ← acquireRepairLock s
  if s.raidmeta.data.raid4.repairing ≠ 0 then .error .blocked
  else
    pure (releaseRepairLock (s.setRaid4 { s.raidmeta.data.raid4 with
      writecount := s.raidmeta.data.raid4.writecount + 1 }))

/-- Lines `acquire(&raiddata->repairlock); raiddata->writecount--; if
(raiddata->writecount == 0) wakeup(...); release(...)` of the writers; no thread
sleeps on `writecount` in a one-thread run. -/
def writerexit (s : RaidState) : Except Fault RaidState := do
  let s ← acquireRepairLock s
  pure (releaseRepairLock (s.setRaid4 { s.raidmeta.data.raid4 with
    writecount := s.raidmeta.data.raid4.writecount - 1 }))

section Raid4

/-- The block loop of `loadclusterraid4`: block `i` of the parity disk becomes
the exclusive-or of block `i` of the valid data disks `0..DISKS-2`; it is
written only when the parity disk is valid. -/
def loadstripes4 : List Nat → RaidState → Except Fault RaidState
  | [], s => .ok s
  | i :: l, s => do
    let parity ← xorFoldM (fun d => (s.raidmeta.diskinfo d).valid)
      (fun d => read_block c (s.raidmeta.diskinfo d).diskn.toNat i s) (List.range (c.DISKS - 1)) 0
    let s ← if (s.raidmeta.diskinfo (c.DISKS - 1)).valid then write_block c c.DISKS i parity s
      else pure s
    loadstripes4 l s

/-- `loadclusterraid4(clustern)`, called with `clusterlock` held: set up the
parity of the cluster's blocks, mark the cluster loaded and store the
metadata. -/
def loadclusterraid4 (clustern : Nat) (s : RaidState) : Except Fault RaidState :=
  if s.raidmeta.type ≠ .RAID4 then .error (.panic "wrong raid function called\n")
  else if NCLUSTERS ≤ clustern then .error (.panic "Wrong cluster number in loading...")
  else do
    let s ← acquireDiskLocks (List.range c.DISKS) s
    let s ← loadstripes4 c (List.range' (clustern * CLUSTER_SIZE) CLUSTER_SIZE) s
    let s := releaseDiskLocks (List.range c.DISKS) (setclusterloaded clustern s)
    writeraidmeta c s

/-- `raid4read(vblkn, data)`: block `vblkn / (DISKS - 1)` of data disk
`vblkn % (DISKS - 1)`, rebuilt from the others when that disk is invalid. -/
def raid4read (vblkn : Int) (data : Block) (s : RaidState) :
    Except Fault (UInt64 × Block × RaidState) :=
  if s.raidmeta.type ≠ .RAID4 then .error (.panic "wrong raid function called\n")
  else if outofrange c vblkn s then .ok (-1, data, s)
  else do
    let diskn ← cmod vblkn.toNat (c.DISKS - 1)
    let pblkn ← cdiv vblkn.toNat (c.DISKS - 1)
    let diskinfo ← diskinfoAt c diskn s
    if !diskinfo.valid then
      if otherinvalid c diskn s then pure (-1, data, s)
      else do
        let s ← acquireDiskLocks (List.range c.DISKS) s
        let data ← readinvalidraid4 c diskn pblkn s
        pure (0, data, releaseDiskLocks (List.range c.DISKS) s)
    else do
      let s ← acquireDiskLock diskn s
      let data ← read_block c (diskn + 1) pblkn s
      pure (0, data, releaseDiskLock diskn s)

/-- The three ways `raid4write` stores the block once its cluster is loaded:
through the parity alone when the data disk is invalid, to the data disk alone
when the parity disk is invalid, and by read-modify-write of data and parity
otherwise. -/
def raid4update (diskn pblkn : Nat) (data : Block) (s : RaidState) :
    Except Fault RaidState :=
  if !(s.raidmeta.diskinfo diskn).valid then do
    let s ← acquireDiskLocks (List.range c.DISKS) s
    let prevdata ← readinvalidraid4 c diskn pblkn s
    let parity ← read_block c c.DISKS pblkn s
    let s ← write_block c c.DISKS pblkn (parity ^^^ (prevdata ^^^ data)) s
    pure (releaseDiskLocks (List.range c.DISKS) s)
  else if !(s.raidmeta.diskinfo (c.DISKS - 1)).valid then do
    let s ← acquireDiskLock diskn s
    let s ← write_block c (diskn + 1) pblkn data s
    pure (releaseDiskLock diskn s)
  else do
    let s ← acquireDiskLock diskn s
    let s ← acquireDiskLock (c.DISKS - 1) s
    let prevdata ← read_block c (diskn + 1) pblkn s
    let parity ← read_block c c.DISKS pblkn s
    let s ← write_block c (diskn + 1) pblkn data s
    let s ← write_block c c.DISKS pblkn (parity ^^^ (prevdata ^^^ data)) s
    pure (releaseDiskLock diskn (releaseDiskLock (c.DISKS - 1) s))

/-- `raid4write(vblkn, data)`. -/
def raid4write (vblkn : Int) (data : Block) (s : RaidState) :
    Except Fault (UInt64 × RaidState) :=
  if s.raidmeta.type ≠ .RAID4 then .error (.panic "wrong raid function called\n")
  else if outofrange c vblkn s then .ok (-1, s)
  else do
    let diskn ← cmod vblkn.toNat (c.DISKS - 1)
    let pblkn ← cdiv vblkn.toNat (c.DISKS - 1)
    let diskinfo ← diskinfoAt c diskn s
    if !diskinfo.valid && otherinvalid c diskn s then pure (-1, s)
    else do
      let clustern := pblkn / CLUSTER_SIZE
      let s ← writerenter s
      let s ← acquireClusterLock s
      let loaded ← clusterloadedAt clustern s
      let s ← if !loaded then loadclusterraid4 c clustern s else pure s
      let s ← raid4update c diskn pblkn data (releaseClusterLock s)
      let s ← writerexit s
      pure (0, s)

end Raid4

section Raid5

/-- The block loop of `loadclusterraid5`: the parity of block `i` sits on disk
index `i % DISKS` and becomes the exclusive-or of block `i` of the other valid
disks; it is written only when that disk is valid. -/
def loadstripes5 : List Nat → RaidState → Except Fault RaidState
  | [], s => .ok s
  | i :: l, s => do
    let paritydiskn := i % c.DISKS
    let parity ← xorFoldM (fun d => (s.raidmeta.diskinfo d).valid && d != paritydiskn)
      (fun d => read_block c (s.raidmeta.diskinfo d).diskn.toNat i s) (List.range c.DISKS) 0
    let s ← if (s.raidmeta.diskinfo paritydiskn).valid then
        write_block c (s.raidmeta.diskinfo paritydiskn).diskn.toNat i parity s
      else pure s
    loadstripes5 l s

/-- `loadclusterraid5(clustern)`, called with `clusterlock` held. -/
def loadclusterraid5 (clustern : Nat) (s : RaidState) : Except Fault RaidState :=
  if s.raidmeta.type ≠ .RAID5 then .error (.panic "wrong raid function called\n")
  else if NCLUSTERS ≤ clustern then .error (.panic "Wrong cluster number in loading...")
  else do
    let s ← acquireDiskLocks (List.range c.DISKS) s
    let s ← loadstripes5 c (List.range' (clustern * CLUSTER_SIZE) CLUSTER_SIZE) s
    let s := releaseDiskLocks (List.range c.DISKS) (setclusterloaded clustern s)
    writeraidmeta c s

/-- `raid5read(vblkn, data)`: block `vblkn` lies in stripe `vblkn / (DISKS - 1)`,
whose parity is on disk index `stripe % DISKS`; the data disks follow it
cyclically. -/
def raid5read (vblkn : Int) (data : Block) (s : RaidState) :
    Except Fault (UInt64 × Block × RaidState) :=
  if s.raidmeta.type ≠ .RAID5 then .error (.panic "wrong raid function called\n")
  else if outofrange c vblkn s then .ok (-1, data, s)
  else do
    let stripe ← cdiv vblkn.toNat (c.DISKS - 1)
    let paritydiskn := stripe % c.DISKS
    let stripepos ← cmod vblkn.toNat (c.DISKS - 1)
    let diskn := (paritydiskn + 1 + stripepos) % c.DISKS
    let diskinfo ← diskinfoAt c diskn s
    if !diskinfo.valid then
      if otherinvalid c diskn s then pure (-1, data, s)
      else do
        let s ← acquireDiskLocks (List.range c.DISKS) s
        let data ← readinvalidraid5 c diskn stripe s
        pure (0, data, releaseDiskLocks (List.range c.DISKS) s)
    else do
      let s ← acquireDiskLock diskn s
      let data ← read_block c (diskn + 1) stripe s
      pure (0, data, releaseDiskLock diskn s)

/-- The three write paths of `raid5write`. The all-valid path takes the two
disk locks in ascending order, which a one-thread run cannot tell apart. -/
def raid5update (diskn paritydiskn stripe : Nat) (data : Block) (s : RaidState) :
    Except Fault RaidState :=
  if !(s.raidmeta.diskinfo diskn).valid then do
    let s ← acquireDiskLocks (List.range c.DISKS) s
    let prevdata ← readinvalidraid5 c diskn stripe s
    let pdiskn := (s.raidmeta.diskinfo paritydiskn).diskn.toNat
    let parity ← read_block c pdiskn stripe s
    let s ← write_block c pdiskn stripe (parity ^^^ (prevdata ^^^ data)) s
    pure (releaseDiskLocks (List.range c.DISKS) s)
  else if !(s.raidmeta.diskinfo paritydiskn).valid then do
    let s ← acquireDiskLock diskn s
    let s ← write_block c (diskn + 1) stripe data s
    pure (releaseDiskLock diskn s)
  else do
    let s ← if diskn < paritydiskn then do
        let s ← acquireDiskLock diskn s
        acquireDiskLock paritydiskn s
      else do
        let s ← acquireDiskLock paritydiskn s
        acquireDiskLock diskn s
    let pdiskn := (s.raidmeta.diskinfo paritydiskn).diskn.toNat
    let prevdata ← read_block c (diskn + 1) stripe s
    let parity ← read_block c pdiskn stripe s
    let s ← write_block c (diskn + 1) stripe data s
    let s ← write_block c pdiskn stripe (parity ^^^ (prevdata ^^^ data)) s
    pure (if diskn < paritydiskn then releaseDiskLock diskn (releaseDiskLock paritydiskn s)
      else releaseDiskLock paritydiskn (releaseDiskLock diskn s))

/-- `raid5write(vblkn, data)`. -/
def raid5write (vblkn : Int) (data : Block) (s : RaidState) :
    Except Fault (UInt64 × RaidState) :=
  if s.raidmeta.type ≠ .RAID5 then .error (.panic "wrong raid function called\n")
  else if outofrange c vblkn s then .ok (-1, s)
  else do
    let stripe ← cdiv vblkn.toNat (c.DISKS - 1)
    let paritydiskn := stripe % c.DISKS
    let stripepos ← cmod vblkn.toNat (c.DISKS - 1)
    let diskn := (paritydiskn + 1 + stripepos) % c.DISKS
    let diskinfo ← diskinfoAt c diskn s
    if !diskinfo.valid && otherinvalid c diskn s then pure (-1, s)
    else do
      let clustern := stripe / CLUSTER_SIZE
      let s ← writerenter s
      let s ← acquireClusterLock s
      let loaded ← clusterloadedAt clustern s
      let s ← if !loaded then loadclusterraid5 c clustern s else pure s
      let s ← raid5update c diskn paritydiskn stripe data (releaseClusterLock s)
      let s ← writerexit s
      pure (0, s)

end Raid5

end Xv6Raid
