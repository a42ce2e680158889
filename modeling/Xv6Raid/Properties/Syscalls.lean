import Xv6Raid.Model.Syscalls
import Xv6Raid.Spec.ParityCalls

/-!
What the system calls `sys_init_raid` and `sys_read_raid` report. The first
bounds the type from below only and drops the result of `setraidtype`; the
second tests the `uint64` result of `readraid` with `< 0`, which never holds.
-/

namespace Xv6Raid

theorem RAID_TYPE.ofInt_eq_none {t : Int} (h : 5 ≤ t) : RAID_TYPE.ofInt t = none := by
  unfold RAID_TYPE.ofInt
  split <;> first | rfl | omega

theorem RAID_TYPE.nonneg_of_ofInt {t : Int} {u : RAID_TYPE} (h : RAID_TYPE.ofInt t = some u) :
    0 ≤ t := by
  unfold RAID_TYPE.ofInt at h
  split at h <;> first | omega | cases h

variable (c : Config)

/-- `sys_init_raid` is not atomic: a type past `RAID5` panics in
`setraidtype`, and a RAID4 or RAID5 type that `setraidtype` refuses for two
invalid disks returns `0` with the type and the handlers switched but nothing
set up or stored. -/
theorem init_raid_not_atomic :
    (∀ (t : Int) (s : RaidState), 5 ≤ t →
      sys_init_raid c t s = .error (.panic "invalid raid type")) ∧
    (∀ (t : Int) (u : RAID_TYPE) (s : RaidState), RAID_TYPE.ofInt t = some u →
      (u = .RAID4 ∨ u = .RAID5) → 1 < invalidcount c s →
      sys_init_raid c t s = .ok (0, settype u s)) := by
  constructor
  · intro t s ht
    have hnone := RAID_TYPE.ofInt_eq_none ht
    have hpos : ¬ t < 0 := by omega
    simp [sys_init_raid, hpos, setraidtype, hnone]
  · intro t u s hu hp hinv
    have hpos : ¬ t < 0 := Int.not_lt.mpr (RAID_TYPE.nonneg_of_ofInt hu)
    simp [sys_init_raid, hpos, setraidtype_rejected c hu hp hinv]

/-- A state of three disks after the first boot with disks 1 and 2 failed. -/
def twoFailed : RaidState :=
  ((freshState 3).setDiskinfo 0 ⟨false, 1, ⟨false⟩⟩).setDiskinfo 1 ⟨false, 2, ⟨false⟩⟩

theorem init_raid_not_atomic_three_disks :
    sys_init_raid threeDisks 5 (freshState 3) = .error (.panic "invalid raid type") ∧
      sys_init_raid threeDisks 3 twoFailed = .ok (0, settype .RAID4 twoFailed) :=
  ⟨(init_raid_not_atomic threeDisks).1 5 _ (by decide),
    (init_raid_not_atomic threeDisks).2 3 .RAID4 twoFailed rfl (.inl rfl) (by decide)⟩

/-- `sys_read_raid` with a writable user buffer returns `0` and hands over the
buffer `readraid` left, whatever `readraid` returned. -/
theorem sys_read_raid_ok {vblkn : Int} {data_addr : UInt64} {user stack data : Block}
    {s s' : RaidState} {r : UInt64} (h : readraid c vblkn stack s = .ok (r, data, s')) :
    sys_read_raid c vblkn data_addr true user stack s = .ok (0, data, s') := by
  simp [sys_read_raid, UInt64.not_lt_zero, h]

/-- Every level refuses a negative block with `-1` and leaves the buffer. -/
theorem readraid_negative {s : RaidState} {vblkn : Int} (stack : Block)
    (hd : s.raidmeta.isDestroyed = false)
    (hr : s.raidmeta.read = none ∨ s.raidmeta.read = some s.raidmeta.type) (hv : vblkn < 0) :
    readraid c vblkn stack s = .ok (-1, stack, s) := by
  have hout : outofrange c vblkn s := .inl hv
  rcases hr with hr | hr
  · simp [readraid, hd, hr]
  · cases ht : s.raidmeta.type <;> rw [ht] at hr <;>
      simp [readraid, hd, hr, readtable, raid0read, raid1read, raid0_1read, raid4read, raid5read,
        ht, hout]

/-- A read that fails is reported as a success: a negative block makes
`readraid` return `-1` without touching the stack buffer, and `sys_read_raid`
returns `0` and copies that uninitialised buffer to the user. -/
theorem read_raid_reports_failure_as_success {s : RaidState} {vblkn : Int} (data_addr : UInt64)
    (user stack : Block) (hd : s.raidmeta.isDestroyed = false)
    (hr : s.raidmeta.read = none ∨ s.raidmeta.read = some s.raidmeta.type) (hv : vblkn < 0) :
    readraid c vblkn stack s = .ok (-1, stack, s) ∧
      sys_read_raid c vblkn data_addr true user stack s = .ok (0, stack, s) := by
  have hfail := readraid_negative c stack hd hr hv
  exact ⟨hfail, sys_read_raid_ok c hfail⟩

theorem read_raid_reports_failure_as_success_fresh :
    readraid threeDisks (-1) ⟨fun _ => 7⟩ (freshState 3) = .ok (-1, ⟨fun _ => 7⟩, freshState 3) ∧
      sys_read_raid threeDisks (-1) 0 true 0 ⟨fun _ => 7⟩ (freshState 3) =
        .ok (0, ⟨fun _ => 7⟩, freshState 3) :=
  read_raid_reports_failure_as_success threeDisks 0 0 ⟨fun _ => 7⟩ rfl (.inr rfl) (by decide)

end Xv6Raid
