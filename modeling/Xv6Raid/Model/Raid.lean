import Xv6Raid.Model.Parity

/-!
The entry points of kernel/raid.c: the handler tables, `readraid` and
`writeraid`, `loadraid` at boot, `setraidtype`, `raidfail`, `raidrepair` and
`raiddestroy`.

`raidrepair` has one body for RAID1 and RAID0_1, which differ only in how the
pair and the partner are found, and one for RAID4 and RAID5, which is the
same code on aliased storage.
-/

namespace Xv6Raid

open XorSum RaidState

variable (c : Config)

/-- `readtable[t]`. -/
def readtable : RAID_TYPE → Int → Block → RaidState → Except Fault (UInt64 × Block × RaidState)
  | .RAID0 => raid0read c
  | .RAID1 => raid1read c
  | .RAID0_1 => raid0_1read c
  | .RAID4 => raid4read c
  | .RAID5 => raid5read c

/-- `writetable[t]`. -/
def writetable : RAID_TYPE → Int → Block → RaidState → Except Fault (UInt64 × RaidState)
  | .RAID0 => raid0write c
  | .RAID1 => raid1write c
  | .RAID0_1 => raid0_1write c
  | .RAID4 => raid4write c
  | .RAID5 => raid5write c

/-- `readraid(vblkn, data)`: call the current read handler. -/
def readraid (vblkn : Int) (data : Block) (s : RaidState) :
    Except Fault (UInt64 × Block × RaidState) :=
  if s.raidmeta.isDestroyed then .error (.panic "RAID structure was destroyed\n")
  else
    match s.raidmeta.read with
    | some t => readtable c t vblkn data s
    | none => .ok (-1, data, s)

/-- `writeraid(vblkn, data)`: call the current write handler. -/
def writeraid (vblkn : Int) (data : Block) (s : RaidState) :
    Except Fault (UInt64 × RaidState) :=
  if s.raidmeta.isDestroyed then .error (.panic "RAID structure was destroyed\n")
  else
    match s.raidmeta.write with
    | some t => writetable c t vblkn data s
    | none => .ok (-1, s)

/-- `loadraid()` at boot: read the structure from the last block of disk 1. A
block of zeros means a first boot, which numbers the disks, marks them valid
and stores the structure. Only the disk locks are initialised again. -/
def loadraid (s : RaidState) : Except Fault RaidState := do
  let data ← read_block c 1 diskblockn s
  let m := c.load data
  if m.isDestroyed then .error (.panic "RAID structure was destroyed\n")
  else
    let prevState := (List.finRange BSIZE).any fun i => data.byte i != 0
    let m := { m with diskinfo := fun i =>
      if i < c.DISKS then { m.diskinfo i with lock := ⟨false⟩ } else m.diskinfo i }
    if prevState then pure { s with raidmeta := m }
    else
      -- `raidmeta.type` is one of the enumerators here, so the handlers are set
      let m := { m with diskinfo := (fun i =>
        if i < c.DISKS then { m.diskinfo i with diskn := UInt8.ofNat (i + 1), valid := true }
        else if i = c.DISKS then { m.diskinfo i with valid := false }
        else m.diskinfo i) }
      writeraidmeta c { s with raidmeta := { m with read := some m.type, write := some m.type } }

/-- The pair loops of `setraidtype`: pairs `0..n-1` get the disks `first i` and
`second i`, a released mutex and no reader or writer. -/
def initpairs (n : Nat) (first second : Nat → Nat) (s : RaidState) : RaidState :=
  { s with raidmeta := { s.raidmeta with data := { s.raidmeta.data with diskpair := (fun i =>
      if i < n then ⟨⟨false⟩, fun k => if k = 0 then first i else second i, false, fun _ => false⟩
      else s.raidmeta.data.diskpair i) } } }

/-- The RAID4 and RAID5 cases of `setraidtype`: fresh locks, zero counters and
no cluster loaded. -/
def initclusters (s : RaidState) : RaidState :=
  s.setRaid4
    { cluster_loaded := fun k =>
        if k < NCLUSTERS then false else s.raidmeta.data.raid4.cluster_loaded k
      clusterlock := ⟨false⟩
      repairlock := ⟨false⟩
      writecount := 0
      repairing := 0 }

/-- The count `israidable` of invalid disks among `diskinfo[0..DISKS-1]`. -/
def invalidcount (s : RaidState) : Nat :=
  ((List.range c.DISKS).filter fun i => !(s.raidmeta.diskinfo i).valid).length

/-- `setraidtype(type)`. The type, the handlers and `isDestroyed` are set before
the RAID4/RAID5 check, which returns `-1` when two or more disks are invalid. -/
def setraidtype (type : Int) (s : RaidState) : Except Fault (UInt64 × RaidState) :=
  match RAID_TYPE.ofInt type with
  | none => .error (.panic "invalid raid type")
  | some t =>
    let s := { s with raidmeta := { s.raidmeta with
      type := t, read := some t, write := some t, isDestroyed := false } }
    let finish (s : RaidState) : Except Fault (UInt64 × RaidState) := do
      let s ← writeraidmeta c s
      pure (0, s)
    match t with
    | .RAID0 => finish s
    | .RAID1 => finish (initpairs ((c.DISKS + 1) / 2) (fun i => 2 * i) (fun i => 2 * i + 1) s)
    | .RAID0_1 => finish (initpairs (c.DISKS / 2) (fun i => i) (fun i => i + c.DISKS / 2) s)
    | .RAID4 | .RAID5 =>
      if 1 < invalidcount c s then .ok (-1, s) else finish (initclusters s)

/-- `raidfail(diskn)` for the disk numbered `diskn` in `1..DISKS`. -/
def raidfail (diskn : Int) (s : RaidState) : Except Fault (UInt64 × RaidState) :=
  if s.raidmeta.isDestroyed then .error (.panic "RAID structure was destroyed\n")
  else if diskn - 1 < 0 ∨ (c.DISKS : Int) ≤ diskn - 1 then .ok (-1, s)
  else do
    let d := (diskn - 1).toNat
    let s ← writeraidmeta c (s.setDiskinfo d { s.raidmeta.diskinfo d with valid := false })
    pure (0, s)

theorem toNat_lt_two {k : Int} (h : 0 ≤ k ∧ k < 2) : k.toNat < 2 := by omega

/-- `diskpair->disk[k]` for an `int` index `k`. -/
def pairdiskAt (dp : DiskPair) (k : Int) : Except Fault Nat :=
  if h : 0 ≤ k ∧ k < 2 then .ok (dp.disk ⟨k.toNat, toNat_lt_two h⟩) else .error .outOfBounds

/-- The copy loop of the mirror repair: block `i` of disk `src` is written to
disk `dst`, for `i` in `0..diskblockn()`. -/
def copyblocks (src dst : Nat) : List Nat → RaidState → Except Fault RaidState
  | [], s => .ok s
  | i :: l, s =>
    match read_block c src i s with
    | .ok data =>
      match write_block c dst i data s with
      | .ok s => copyblocks src dst l s
      | .error e => .error e
    | .error e => .error e

/-- The RAID1 and RAID0_1 cases of `raidrepair` once pair `p` and the valid
partner are known: become the pair's writer, copy every block of the partner
onto disk `diskn` and mark it valid. -/
def mirrorrepair (p partner diskn : Nat) (s : RaidState) : Except Fault RaidState := do
  let s ← acquireMutex p s
  let dp := s.raidmeta.data.diskpair p
  if dp.writing || dp.reading 0 || dp.reading 1 then .error .blocked
  else do
    let s := releaseMutex p (s.setDiskpair p { dp with writing := true })
    let s ← acquireDiskLock (dp.disk 0) s
    let s ← acquireDiskLock (dp.disk 1) s
    let s ← copyblocks c (s.raidmeta.diskinfo partner).diskn.toNat
      (s.raidmeta.diskinfo diskn).diskn.toNat (List.range (diskblockn + 1)) s
    let s := releaseDiskLock (dp.disk 1) (releaseDiskLock (dp.disk 0) s)
    let s := s.setDiskinfo diskn { s.raidmeta.diskinfo diskn with valid := true }
    let s ← acquireMutex p s
    let dp := s.raidmeta.data.diskpair p
    pure (releaseMutex p (s.setDiskpair p { dp with writing := false }))

/-- The block loop of the RAID4/RAID5 repair: a block whose cluster is loaded
becomes the exclusive-or of the same block of the other disks; the others are
skipped. -/
def rebuildblocks (diskn : Nat) : List Nat → RaidState → Except Fault RaidState
  | [], s => .ok s
  | b :: l, s =>
    match acquireClusterLock s with
    | .error e => .error e
    | .ok s =>
      match clusterloadedAt (b / CLUSTER_SIZE) s with
      | .error e => .error e
      | .ok loaded =>
        let s := releaseClusterLock s
        if !loaded then rebuildblocks diskn l s
        else
          match xorothers c diskn b s with
          | .error e => .error e
          | .ok parity =>
            match write_block c (s.raidmeta.diskinfo diskn).diskn.toNat b parity s with
            | .ok s => rebuildblocks diskn l s
            | .error e => .error e

/-- The RAID4 and RAID5 cases of `raidrepair` once every other disk is known to
be valid: announce the repair through `repairing`, wait for the writers to
leave, rebuild with every disk lock held, and withdraw. -/
def parityrepair (diskn : Nat) (s : RaidState) : Except Fault RaidState := do
  let s ← acquireRepairLock s
  let s := s.setRaid4 { s.raidmeta.data.raid4 with
    repairing := s.raidmeta.data.raid4.repairing + 1 }
  if s.raidmeta.data.raid4.writecount ≠ 0 ∧ s.raidmeta.data.raid4.repairing ≠ 0 then
    .error .blocked
  else do
    let s ← acquireDiskLocks (List.range c.DISKS) (releaseRepairLock s)
    let s ← rebuildblocks c diskn (List.range (diskblockn + 1)) s
    let s := s.setDiskinfo diskn { s.raidmeta.diskinfo diskn with valid := true }
    let s ← acquireRepairLock (releaseDiskLocks (List.range c.DISKS) s)
    pure (releaseRepairLock (s.setRaid4 { s.raidmeta.data.raid4 with
      repairing := s.raidmeta.data.raid4.repairing - 1 }))

/-- `raidrepair(diskn)` for the disk numbered `diskn` in `1..DISKS`. -/
def raidrepair (diskn : Int) (s : RaidState) : Except Fault (UInt64 × RaidState) :=
  if s.raidmeta.isDestroyed then .error (.panic "RAID structure was destroyed\n")
  else if diskn - 1 < 0 ∨ (c.DISKS : Int) ≤ diskn - 1 then .ok (-1, s)
  else
    let d := (diskn - 1).toNat
    let finish (s : RaidState) : Except Fault (UInt64 × RaidState) := do
      let s ← writeraidmeta c s
      pure (0, s)
    if (s.raidmeta.diskinfo d).valid then .ok (0, s)
    else
      match s.raidmeta.type with
      | .RAID0 => .ok (-1, s)
      | .RAID1 => do
        let dp ← diskpairAt ((c.DISKS + 1) / 2) (d / 2) s
        let partner ← pairdiskAt dp (1 - (d % 2 : Nat))
        if !(s.raidmeta.diskinfo partner).valid then pure (-1, s)
        else do
          let s ← mirrorrepair c (d / 2) partner d s
          finish s
      | .RAID0_1 => do
        let p ← cmod d (c.DISKS / 2)
        let dp ← diskpairAt (c.DISKS / 2) p s
        let q ← cdiv d (c.DISKS / 2)
        let partner ← pairdiskAt dp (1 - (q : Int))
        if !(s.raidmeta.diskinfo partner).valid then pure (-1, s)
        else do
          let s ← mirrorrepair c p partner d s
          finish s
      | .RAID4 | .RAID5 =>
        if otherinvalid c d s then .ok (-1, s)
        else do
          let s ← parityrepair c d s
          finish s

/-- `raiddestroy()`: mark the structure destroyed and store it. -/
def raiddestroy (s : RaidState) : Except Fault (UInt64 × RaidState) :=
  if s.raidmeta.isDestroyed then .error (.panic "RAID structure was destroyed\n")
  else do
    let s ← writeraidmeta c { s with raidmeta := { s.raidmeta with isDestroyed := true } }
    pure (0, s)

end Xv6Raid
