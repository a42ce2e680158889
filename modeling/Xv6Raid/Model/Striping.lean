import Xv6Raid.Model.Basic

/-!
RAID0 (kernel/raid0.c), the mirrored pairs `readdiskpair` and `writediskpair`
(kernel/raid.c) and the two levels built on them, RAID1 (kernel/raid1.c) and
RAID0_1 (kernel/raid0_1.c).

A pair's `while (1)` loop either finds its condition at once or sleeps; with
one thread nothing wakes it, so a sleep is `Fault.blocked`.
-/

namespace Xv6Raid

open RaidState

variable (c : Config)

/-- `raidmeta.diskinfo[i]`, an array of `DISKS + 1` entries. -/
def diskinfoAt (i : Nat) (s : RaidState) : Except Fault DiskInfo :=
  if i ≤ c.DISKS then .ok (s.raidmeta.diskinfo i) else .error .outOfBounds

/-- `raiddata->diskpair[p]` for an array of `n` pairs. -/
def diskpairAt (n p : Nat) (s : RaidState) : Except Fault DiskPair :=
  if p < n then .ok (s.raidmeta.data.diskpair p) else .error .outOfBounds

/-- `a % b` in C: a remainder by zero is undefined. -/
def cmod (a b : Nat) : Except Fault Nat :=
  if b = 0 then .error .divByZero else .ok (a % b)

/-- `a / b` in C. -/
def cdiv (a b : Nat) : Except Fault Nat :=
  if b = 0 then .error .divByZero else .ok (a / b)

/-- The range test `vblkn < 0 || vblkn >= raidblockn()` that every level makes
first. -/
def outofrange (vblkn : Int) (s : RaidState) : Prop :=
  vblkn < 0 ∨ (raidblockn c s.raidmeta : Int) ≤ vblkn

instance (vblkn : Int) (s : RaidState) : Decidable (outofrange c vblkn s) :=
  inferInstanceAs (Decidable (_ ∨ _))

section Raid0

/-- `raid0read(vblkn, data)`: block `vblkn` is block `vblkn / DISKS` of disk
`vblkn % DISKS`; the read fails when that disk is invalid. -/
def raid0read (vblkn : Int) (data : Block) (s : RaidState) :
    Except Fault (UInt64 × Block × RaidState) :=
  if s.raidmeta.type ≠ .RAID0 then .error (.panic "wrong raid function called\n")
  else if outofrange c vblkn s then .ok (-1, data, s)
  else do
    let diskn := vblkn.toNat % c.DISKS
    let pblkn := vblkn.toNat / c.DISKS
    let diskInfo ← diskinfoAt c diskn s
    if !diskInfo.valid then pure (-1, data, s)
    else do
      let s ← acquireDiskLock diskn s
      let data ← read_block c diskInfo.diskn.toNat pblkn s
      pure (0, data, releaseDiskLock diskn s)

/-- `raid0write(vblkn, data)`. -/
def raid0write (vblkn : Int) (data : Block) (s : RaidState) :
    Except Fault (UInt64 × RaidState) :=
  if s.raidmeta.type ≠ .RAID0 then .error (.panic "wrong raid function called\n")
  else if outofrange c vblkn s then .ok (-1, s)
  else do
    let diskn := vblkn.toNat % c.DISKS
    let pblkn := vblkn.toNat / c.DISKS
    let diskInfo ← diskinfoAt c diskn s
    if !diskInfo.valid then pure (-1, s)
    else do
      let s ← acquireDiskLock diskn s
      let s ← write_block c diskInfo.diskn.toNat pblkn data s
      pure (0, releaseDiskLock diskn s)

end Raid0

section Pairs

/-- The slot loop of `readdiskpair`: the first disk of the pair that is valid
and has no reader. -/
def readslot (dp : DiskPair) (m : RAIDMeta) : Option (Fin 2) :=
  if !dp.reading 0 && (m.diskinfo (dp.disk 0)).valid then some 0
  else if !dp.reading 1 && (m.diskinfo (dp.disk 1)).valid then some 1
  else none

/-- `readdiskpair(diskpair, pblkn, data)` for pair `p`: many readers, one
writer. A reader claims a free slot of a valid disk, reads it outside the
mutex and frees the slot again. -/
def readdiskpair (p pblkn : Nat) (data : Block) (s : RaidState) :
    Except Fault (UInt64 × Block × RaidState) := do
  let s ← acquireMutex p s
  let dp := s.raidmeta.data.diskpair p
  if !(s.raidmeta.diskinfo (dp.disk 0)).valid && !(s.raidmeta.diskinfo (dp.disk 1)).valid then
    pure (-1, data, releaseMutex p s)
  else if dp.writing then .error .blocked
  else
    match readslot dp s.raidmeta with
    | none => .error .blocked
    | some i => do
      let s := releaseMutex p (s.setDiskpair p
        { dp with reading := Function.update dp.reading i true })
      let diskn := (s.raidmeta.diskinfo (dp.disk i)).diskn
      let s ← acquireDiskLock (dp.disk i) s
      let data ← read_block c diskn.toNat pblkn s
      let s := releaseDiskLock (dp.disk i) s
      let s ← acquireMutex p s
      let dp := s.raidmeta.data.diskpair p
      pure (0, data, releaseMutex p (s.setDiskpair p
        { dp with reading := Function.update dp.reading i false }))

/-- The loop `for (i = 0; i < 2; i++) if (diskpair->disk[i]->valid) write_block(...)`
of `writediskpair`. -/
def writemirrors (dp : DiskPair) (pblkn : Nat) (data : Block) :
    List (Fin 2) → RaidState → Except Fault RaidState
  | [], s => .ok s
  | i :: l, s =>
    if (s.raidmeta.diskinfo (dp.disk i)).valid then
      match write_block c (s.raidmeta.diskinfo (dp.disk i)).diskn.toNat pblkn data s with
      | .ok s => writemirrors dp pblkn data l s
      | .error e => .error e
    else writemirrors dp pblkn data l s

/-- `writediskpair(diskpair, pblkn, data)` for pair `p`: wait until no reader or
writer is inside, then write both valid disks of the pair. -/
def writediskpair (p pblkn : Nat) (data : Block) (s : RaidState) :
    Except Fault (UInt64 × RaidState) := do
  let s ← acquireMutex p s
  let dp := s.raidmeta.data.diskpair p
  if !(s.raidmeta.diskinfo (dp.disk 0)).valid && !(s.raidmeta.diskinfo (dp.disk 1)).valid then
    pure (-1, releaseMutex p s)
  else if dp.writing then .error .blocked
  else if dp.reading 0 || dp.reading 1 then .error .blocked
  else do
    let s := releaseMutex p (s.setDiskpair p { dp with writing := true })
    let s ← acquireDiskLock (dp.disk 0) s
    let s ← acquireDiskLock (dp.disk 1) s
    let s ← writemirrors c dp pblkn data [0, 1] s
    let s := releaseDiskLock (dp.disk 1) (releaseDiskLock (dp.disk 0) s)
    let s ← acquireMutex p s
    let dp := s.raidmeta.data.diskpair p
    pure (0, releaseMutex p (s.setDiskpair p { dp with writing := false }))

end Pairs

section Mirrors

/-- `raid1read(vblkn, data)`: pair `vblkn / diskblockn()` of the `(DISKS + 1) / 2`
pairs `(2i, 2i + 1)`, block `vblkn % diskblockn()`. -/
def raid1read (vblkn : Int) (data : Block) (s : RaidState) :
    Except Fault (UInt64 × Block × RaidState) :=
  if s.raidmeta.type ≠ .RAID1 then .error (.panic "wrong raid function called\n")
  else if outofrange c vblkn s then .ok (-1, data, s)
  else do
    let pairNum := vblkn.toNat / diskblockn
    let pblkn := vblkn.toNat % diskblockn
    let _ ← diskpairAt ((c.DISKS + 1) / 2) pairNum s
    readdiskpair c pairNum pblkn data s

/-- `raid1write(vblkn, data)`. -/
def raid1write (vblkn : Int) (data : Block) (s : RaidState) :
    Except Fault (UInt64 × RaidState) :=
  if s.raidmeta.type ≠ .RAID1 then .error (.panic "wrong raid function called\n")
  else if outofrange c vblkn s then .ok (-1, s)
  else do
    let pairNum := vblkn.toNat / diskblockn
    let pblkn := vblkn.toNat % diskblockn
    let _ ← diskpairAt ((c.DISKS + 1) / 2) pairNum s
    writediskpair c pairNum pblkn data s

/-- `raid0_1read(vblkn, data)`: pair `vblkn % (DISKS / 2)` of the `DISKS / 2`
pairs `(i, i + DISKS / 2)`, block `vblkn / (DISKS / 2)`. -/
def raid0_1read (vblkn : Int) (data : Block) (s : RaidState) :
    Except Fault (UInt64 × Block × RaidState) :=
  if s.raidmeta.type ≠ .RAID0_1 then .error (.panic "wrong raid function called\n")
  else if outofrange c vblkn s then .ok (-1, data, s)
  else do
    let pairn ← cmod vblkn.toNat (c.DISKS / 2)
    let pblkn ← cdiv vblkn.toNat (c.DISKS / 2)
    let _ ← diskpairAt (c.DISKS / 2) pairn s
    readdiskpair c pairn pblkn data s

/-- `raid0_1write(vblkn, data)`. -/
def raid0_1write (vblkn : Int) (data : Block) (s : RaidState) :
    Except Fault (UInt64 × RaidState) :=
  if s.raidmeta.type ≠ .RAID0_1 then .error (.panic "wrong raid function called\n")
  else if outofrange c vblkn s then .ok (-1, s)
  else do
    let pairn ← cmod vblkn.toNat (c.DISKS / 2)
    let pblkn ← cdiv vblkn.toNat (c.DISKS / 2)
    let _ ← diskpairAt (c.DISKS / 2) pairn s
    writediskpair c pairn pblkn data s

end Mirrors

end Xv6Raid
