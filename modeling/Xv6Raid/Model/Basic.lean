import Mathlib
import Xv6Raid.Lib.XorSum

/-!
The data of the RAID layer (kernel/raid.h, kernel/fs.h and the Makefile) and
the primitives its functions are built from: the disk driver's `read_block`
and `write_block`, the sleep and spin locks, `diskblockn`, `raidblockn` and
`writeraidmeta`.

The model runs one call at a time. A lock that is already held, or a `sleep`
whose condition no other thread can change, never returns; the model ends the
call with `Fault.blocked`. An access outside an array, a division by zero and
a `panic` end it with their own faults.
-/

namespace Xv6Raid

open XorSum

/-- Block size in bytes (kernel/fs.h). -/
def BSIZE : Nat := 1024

/-- Size of each RAID disk image in bytes (Makefile, `DISK_SIZE_BYTES`). -/
def DISK_SIZE_BYTES : Nat := 8 * 1024 * 1024

/-- Blocks per cluster of the lazy parity loading (kernel/raid.h). -/
def CLUSTER_SIZE : Nat := 128

/-- Length of the `cluster_loaded` array. -/
def NCLUSTERS : Nat := DISK_SIZE_BYTES / BSIZE / CLUSTER_SIZE

/-- `diskblockn()`: the last block of a disk, where the metadata is kept. -/
def diskblockn : Nat := DISK_SIZE_BYTES / BSIZE - 1

theorem diskblockn_eq : diskblockn = 8191 := rfl

theorem NCLUSTERS_eq : NCLUSTERS = 64 := rfl

/-- A disk block, `uchar data[BSIZE]`. -/
@[ext] structure Block where
  byte : Fin BSIZE → UInt8

instance : Zero Block := ⟨⟨fun _ => 0⟩⟩

/-- The byte loop `parity[j] ^= buff[j]` over a whole block. -/
instance : XorOp Block := ⟨fun a b => ⟨fun j => a.byte j ^^^ b.byte j⟩⟩

@[simp] theorem Block.zero_byte (j : Fin BSIZE) : (0 : Block).byte j = 0 := rfl

@[simp] theorem Block.xor_byte (a b : Block) (j : Fin BSIZE) :
    (a ^^^ b).byte j = a.byte j ^^^ b.byte j := rfl

instance : LawfulXor Block where
  xor_assoc _ _ _ := Block.ext (funext fun _ => UInt8.xor_assoc _ _ _)
  xor_comm _ _ := Block.ext (funext fun _ => UInt8.xor_comm _ _)
  xor_self _ := Block.ext (funext fun _ => UInt8.xor_self)
  xor_zero _ := Block.ext (funext fun _ => UInt8.xor_zero)

/-- `enum RAID_TYPE`. -/
inductive RAID_TYPE
  | RAID0
  | RAID1
  | RAID0_1
  | RAID4
  | RAID5
  deriving DecidableEq, Repr

/-- The enumerator with value `t`, if there is one. -/
def RAID_TYPE.ofInt : Int → Option RAID_TYPE
  | 0 => some .RAID0
  | 1 => some .RAID1
  | 2 => some .RAID0_1
  | 3 => some .RAID4
  | 4 => some .RAID5
  | _ => none

/-- `struct sleeplock`; of its fields only `locked` is read by the RAID code. -/
structure SleepLock where
  locked : Bool
  deriving DecidableEq, Repr

/-- `struct spinlock`; only `locked` matters here. -/
structure SpinLock where
  locked : Bool
  deriving DecidableEq, Repr

/-- `struct DiskInfo`: one entry of `raidmeta.diskinfo`. -/
structure DiskInfo where
  valid : Bool
  /-- The disk's number for `read_block` and `write_block`, from 1 to 8. -/
  diskn : UInt8
  lock : SleepLock

/-- The two slots of a pair are written 0 and 1 as in the source. This instance
makes each such literal of type Fin 2 one closed term, the same in every
module, instead of a side proof made anew by each definition that uses it. -/
instance instNeZeroTwo : NeZero (2 : Nat) := ⟨by decide⟩

/-- `struct DiskPair`. The two `disk` pointers are kept as indices into
`raidmeta.diskinfo`. -/
structure DiskPair where
  mutex : SpinLock
  disk : Fin 2 → Nat
  writing : Bool
  reading : Fin 2 → Bool

/-- `struct RAID4Data`, and `struct RAID5Data`, which has the same fields in
the same order. -/
structure RAID4Data where
  cluster_loaded : Nat → Bool
  clusterlock : SleepLock
  repairlock : SpinLock
  writecount : Int
  repairing : Int

/-- The union `raidmeta.data`. `raid1.diskpair` and `raid0_1.diskpair` start at
the same address with the same element type, and so do the identical
`raid4` and `raid5` members; each pair of aliases is one field here. The union
also lays `diskpair` over `raid4`; here they are two fields, which agree with
the C storage once `setraidtype` has set up the current type. -/
structure RAIDData where
  diskpair : Nat → DiskPair
  raid4 : RAID4Data

/-- `struct RAIDMeta`. The handler pointers `read` and `write` are `none` for
the null pointer and `some t` for `readtable[t]` and `writetable[t]`. -/
structure RAIDMeta where
  type : RAID_TYPE
  diskinfo : Nat → DiskInfo
  isDestroyed : Bool
  data : RAIDData
  read : Option RAID_TYPE
  write : Option RAID_TYPE

/-- The structure a block of zero bytes holds: every field zero. -/
def RAIDMeta.zero : RAIDMeta where
  type := .RAID0
  diskinfo _ := ⟨false, 0, ⟨false⟩⟩
  isDestroyed := false
  data := ⟨fun _ => ⟨⟨false⟩, fun _ => 0, false, fun _ => false⟩,
    ⟨fun _ => false, ⟨false⟩, ⟨false⟩, 0, 0⟩⟩
  read := none
  write := none

/-- The global `raidmeta` and the contents of the disks: `disks d b` is block
`b` of disk number `d` (disk 0 holds the file system). -/
structure RaidState where
  raidmeta : RAIDMeta
  disks : Nat → Nat → Block

/-- The build configuration. `DISKS` is the Makefile's number of RAID disks,
from 1 to 8. `image m` is the block `writeraidmeta` writes for `m`, the bytes of
`memmove(data, &raidmeta, sizeof(raidmeta))` over a zeroed block, and `load b`
is the structure `memmove(&raidmeta, data, sizeof(raidmeta))` gives; the
compiler decides that layout. -/
structure Config where
  DISKS : Nat
  one_le_DISKS : 1 ≤ DISKS
  DISKS_le_eight : DISKS ≤ 8
  image : RAIDMeta → Block
  load : Block → RAIDMeta

/-- How a call ends when it does not return. -/
inductive Fault
  | panic (msg : String)
  /-- An index outside a C array, or a disk or block the driver cannot serve. -/
  | outOfBounds
  | divByZero
  /-- Waiting for a lock or a condition that no thread will release. -/
  | blocked
  deriving DecidableEq, Repr

namespace RaidState

@[simps]
def setDiskinfo (s : RaidState) (i : Nat) (d : DiskInfo) : RaidState :=
  { s with raidmeta := { s.raidmeta with diskinfo := Function.update s.raidmeta.diskinfo i d } }

@[simps]
def setRaid4 (s : RaidState) (r : RAID4Data) : RaidState :=
  { s with raidmeta := { s.raidmeta with data := { s.raidmeta.data with raid4 := r } } }

@[simps]
def setDiskpair (s : RaidState) (p : Nat) (dp : DiskPair) : RaidState :=
  { s with raidmeta := { s.raidmeta with data := { s.raidmeta.data with
      diskpair := Function.update s.raidmeta.data.diskpair p dp } } }

@[simps]
def setBlock (s : RaidState) (d b : Nat) (v : Block) : RaidState :=
  { s with disks := Function.update s.disks d (Function.update (s.disks d) b v) }

end RaidState

open RaidState

section Driver

variable (c : Config)

/-- `read_block(diskn, blockno, data)` (kernel/virtio_disk.c). The request goes
through `transfer_buffer[diskn]`, which exists for disks `1..DISKS`, and a block
past the end of the image is refused by the device. -/
def read_block (diskn blockno : Nat) (s : RaidState) : Except Fault Block :=
  if 1 ≤ diskn ∧ diskn ≤ c.DISKS ∧ blockno ≤ diskblockn then .ok (s.disks diskn blockno)
  else .error .outOfBounds

/-- `write_block(diskn, blockno, data)` (kernel/virtio_disk.c). -/
def write_block (diskn blockno : Nat) (data : Block) (s : RaidState) :
    Except Fault RaidState :=
  if 1 ≤ diskn ∧ diskn ≤ c.DISKS ∧ blockno ≤ diskblockn then .ok (s.setBlock diskn blockno data)
  else .error .outOfBounds

end Driver

section Locks

/-- `acquiresleep(&raidmeta.diskinfo[i].lock)` when no other thread runs. -/
def acquireDiskLock (i : Nat) (s : RaidState) : Except Fault RaidState :=
  if (s.raidmeta.diskinfo i).lock.locked then .error .blocked
  else .ok (s.setDiskinfo i { s.raidmeta.diskinfo i with lock := ⟨true⟩ })

/-- `releasesleep(&raidmeta.diskinfo[i].lock)`. -/
def releaseDiskLock (i : Nat) (s : RaidState) : RaidState :=
  s.setDiskinfo i { s.raidmeta.diskinfo i with lock := ⟨false⟩ }

/-- The loop `for (i = 0; i < DISKS; i++) acquiresleep(&raidmeta.diskinfo[i].lock)`. -/
def acquireDiskLocks : List Nat → RaidState → Except Fault RaidState
  | [], s => .ok s
  | i :: l, s =>
    match acquireDiskLock i s with
    | .ok s => acquireDiskLocks l s
    | .error e => .error e

/-- The loop `for (i = 0; i < DISKS; i++) releasesleep(&raidmeta.diskinfo[i].lock)`. -/
def releaseDiskLocks : List Nat → RaidState → RaidState
  | [], s => s
  | i :: l, s => releaseDiskLocks l (releaseDiskLock i s)

/-- `acquiresleep(&raiddata->clusterlock)` on the RAID4/RAID5 data. -/
def acquireClusterLock (s : RaidState) : Except Fault RaidState :=
  if s.raidmeta.data.raid4.clusterlock.locked then .error .blocked
  else .ok (s.setRaid4 { s.raidmeta.data.raid4 with clusterlock := ⟨true⟩ })

/-- `releasesleep(&raiddata->clusterlock)`. -/
def releaseClusterLock (s : RaidState) : RaidState :=
  s.setRaid4 { s.raidmeta.data.raid4 with clusterlock := ⟨false⟩ }

/-- `acquire(&raiddata->repairlock)`: a held spin lock spins for ever. -/
def acquireRepairLock (s : RaidState) : Except Fault RaidState :=
  if s.raidmeta.data.raid4.repairlock.locked then .error .blocked
  else .ok (s.setRaid4 { s.raidmeta.data.raid4 with repairlock := ⟨true⟩ })

/-- `release(&raiddata->repairlock)`. -/
def releaseRepairLock (s : RaidState) : RaidState :=
  s.setRaid4 { s.raidmeta.data.raid4 with repairlock := ⟨false⟩ }

/-- `acquire(&diskpair->mutex)` for pair `p`. -/
def acquireMutex (p : Nat) (s : RaidState) : Except Fault RaidState :=
  if (s.raidmeta.data.diskpair p).mutex.locked then .error .blocked
  else .ok (s.setDiskpair p { s.raidmeta.data.diskpair p with mutex := ⟨true⟩ })

/-- `release(&diskpair->mutex)` for pair `p`. -/
def releaseMutex (p : Nat) (s : RaidState) : RaidState :=
  s.setDiskpair p { s.raidmeta.data.diskpair p with mutex := ⟨false⟩ }

end Locks

section Meta

variable (c : Config)

/-- `raidblockn()`: the number of virtual blocks of the current type. -/
def raidblockn (m : RAIDMeta) : Nat :=
  match m.type with
  | .RAID0 => diskblockn * c.DISKS
  | .RAID1 => diskblockn * ((c.DISKS + 1) / 2)
  | .RAID0_1 => diskblockn * (c.DISKS / 2)
  | .RAID4 => diskblockn * (c.DISKS - 1)
  | .RAID5 => diskblockn * (c.DISKS - 1)

/-- The middle loop of `writeraidmeta`: for `i` in `1..DISKS`, disk `i` gets the
image when the entry `diskinfo[i]` is valid. -/
def writeimages (m : RAIDMeta) : List Nat → RaidState → Except Fault RaidState
  | [], s => .ok s
  | i :: l, s =>
    if (s.raidmeta.diskinfo i).valid then
      match write_block c i diskblockn (c.image m) s with
      | .ok s => writeimages m l s
      | .error e => .error e
    else writeimages m l s

/-- `writeraidmeta()`: with every disk lock held, store the structure in the
last block of the disks. The image is taken while those locks are held. -/
def writeraidmeta (s : RaidState) : Except Fault RaidState := do
  let s ← acquireDiskLocks (List.range c.DISKS) s
  let s ← writeimages c s.raidmeta (List.range' 1 c.DISKS) s
  pure (releaseDiskLocks (List.range c.DISKS) s)

end Meta

end Xv6Raid
