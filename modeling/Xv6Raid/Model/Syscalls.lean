import Xv6Raid.Model.Raid

/-!
The system calls of kernel/sysraid.c. A user buffer is given by its contents
and by whether `copyin` or `copyout` can reach it; `sys_read_raid` reads into
the kernel stack buffer `char data[BSIZE]`, which holds whatever the stack held.
The address tests `data_addr < 0` compare a `uint64` and never hold.
-/

namespace Xv6Raid

variable (c : Config)

/-- `sys_init_raid()`: a negative type is refused, any other goes to
`setraidtype`, whose result is dropped. -/
def sys_init_raid (type : Int) (s : RaidState) : Except Fault (UInt64 × RaidState) :=
  if type < 0 then .ok (-1, s)
  else do
    let (_, s) ← setraidtype c type s
    pure (0, s)

/-- `sys_read_raid()`: read block `vblkn` into the stack buffer and copy it out
to the user buffer, whose contents were `user`. -/
def sys_read_raid (vblkn : Int) (data_addr : UInt64) (writable : Bool) (user stack : Block)
    (s : RaidState) : Except Fault (UInt64 × Block × RaidState) :=
  if data_addr < 0 then .ok (-1, user, s)
  else do
    let (r, data, s) ← readraid c vblkn stack s
    if r < 0 then pure (-1, user, s)
    else if !writable then pure (-1, user, s)
    else pure (0, data, s)

/-- `sys_write_raid()`: the range test, then `copyin` of the user buffer and
`writeraid`. -/
def sys_write_raid (vblkn : Int) (data_addr : UInt64) (readable : Bool) (user : Block)
    (s : RaidState) : Except Fault (UInt64 × RaidState) :=
  if vblkn < 0 ∨ (raidblockn c s.raidmeta : Int) ≤ vblkn then .ok (-1, s)
  else if data_addr < 0 then .ok (-1, s)
  else if !readable then .ok (-1, s)
  else writeraid c vblkn user s

/-- `sys_disk_fail_raid()`. -/
def sys_disk_fail_raid (diskn : Int) (s : RaidState) : Except Fault (UInt64 × RaidState) :=
  if diskn < 0 then .ok (-1, s) else raidfail c diskn s

/-- `sys_disk_repaired_raid()`. -/
def sys_disk_repaired_raid (diskn : Int) (s : RaidState) : Except Fault (UInt64 × RaidState) :=
  if diskn < 0 then .ok (-1, s) else raidrepair c diskn s

/-- `sys_info_raid()`: the number of virtual blocks, the block size and the
number of disks, when `copyout` can reach the three user variables. -/
def sys_info_raid (writable : Bool) (s : RaidState) : UInt64 × Option (Nat × Nat × Nat) :=
  if writable then (0, some (raidblockn c s.raidmeta, BSIZE, c.DISKS)) else (-1, none)

/-- `sys_destroy_raid()`. -/
def sys_destroy_raid (s : RaidState) : Except Fault (UInt64 × RaidState) :=
  raiddestroy c s

end Xv6Raid
