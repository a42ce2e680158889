import Xv6Raid.Model.LockLevel
import Xv6Raid.Spec.Meta

/-!
Each disk has one `struct buf` for its transfers, `transfer_buffer[diskn]`,
which `read_block` and `write_block` fill and hand to the device
(kernel/virtio_disk.c). The RAID code serialises them through
`diskinfo[diskn - 1].lock`. `setraidtype` takes no lock, and when it changes
the pairing of a mirrored array it re-points `diskpair->disk[1]` under a
writer of the pair that already holds the old disk's lock: the writer then
writes through the new pointer to a disk whose lock it does not hold.
-/

namespace Xv6Raid.LockLevel

open LockProgram Threads

/-- An array of four disks whose stored structure plays no part. -/
def fourDisks : Config := ⟨4, by decide, by decide, fun _ => 0, fun _ => .zero⟩

/-- The state after the first boot of four disks and `setraidtype(1)`. -/
def raid1State : RaidState :=
  match setraidtype fourDisks 1 (freshState 4) with
  | .ok (_, s) => s
  | .error _ => freshState 4

/-- A writer of block 0 of the RAID1 array, and `setraidtype(2)` (RAID0_1). -/
def writerAndSetraidtype : System (Fin 2) :=
  ⟨raid1State, fun _ => none, fun t => if t = 0 then .writeraid 0 else .setraidtype 2,
    fun _ => none⟩

/-- The writer enters `writediskpair` for pair `(0, 1)` and takes both disk
locks; `setraidtype(2)` then makes pair 0 the disks `(0, 2)`; the writer writes
disk 1 and goes on to `write_block(diskpair->disk[1]->diskn, ...)`, which is now
disk 3, while `diskinfo[2].lock` is free. -/
theorem write_block_without_disk_lock :
    setraidtype fourDisks 1 (freshState 4) = .ok (0, raid1State) ∧
      let s := [0, 0, 0, 0, 0, 0, 1, 0, 0, 0].foldl (step (code fourDisks)) writerAndSetraidtype
      Reachable (Start raid1State) (step (code fourDisks)) s ∧ s.asleep 0 = none ∧
        (∃ k, s.pc 0 = .io (.pairDiskn 0 1) k) ∧ DiskRef.get s.data (.pairDiskn 0 1) = 3 ∧
        s.owner (.disk (3 - 1)) = none := by
  have hstart : Start raid1State writerAndSetraidtype :=
    ⟨rfl, fun _ => rfl, fun _ => rfl, by decide⟩
  refine ⟨rfl, (Reachable.init hstart).foldl _, by decide, ⟨_, rfl⟩, by decide, by decide⟩

end Xv6Raid.LockLevel
