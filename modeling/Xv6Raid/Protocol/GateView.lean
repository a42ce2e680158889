import Xv6Raid.Protocol.Deadlock
import Xv6Raid.Protocol.RepairGate

/-!
The gate between RAID4/RAID5 writers and repairs (`RepairGate`) read off the
lock level. A thread's place in the gate is its place in the code's waiting
protocols, and the two counters are those of the data. The code's `wakeup` is
a step of its own after the counter reaches zero, so a repair that goes to
sleep in between is woken too and tests its loop again; the gate wakes the
sleepers in the step that decrements. The lock level is therefore not a run of
the gate step for step, but the gate's invariant holds of every state the code
reaches: it is what the counts of `WaitInv` say.
-/

namespace Xv6Raid.LockLevel

open LockProgram Threads

/-- The place in the gate of a thread at the place `g` of the waiting protocols;
threads outside both regions are at the start of a write. -/
def gatePC : Tag → RepairGate.PC
  | .wInside => .winside
  | .wWake => .wdone
  | .rAnnounced false => .rsleep
  | .rAnnounced true => .rinside
  | .rWake => .rdone
  | _ => .wstart

theorem gatePC_eq_winside (g : Tag) : gatePC g = .winside ↔ g = .wInside := by
  rcases g with _ | _ | _ | (_ | _) | _ | _ | _ | _ <;> simp [gatePC]

theorem gatePC_eq_rinside (g : Tag) : gatePC g = .rinside ↔ g = .rAnnounced true := by
  rcases g with _ | _ | _ | (_ | _) | _ | _ | _ | _ <;> simp [gatePC]

theorem announced_gatePC (g : Tag) : RepairGate.Announced (gatePC g) ↔ g.announced = true := by
  rcases g with _ | _ | _ | (_ | _) | _ | _ | _ | _ <;> simp [gatePC, RepairGate.Announced, Tag.announced]

variable {c : Config} {T : RAID_TYPE} {τ : Type*}

/-- The gate's state in a state of the lock level. -/
def gateView (s : System τ) : RepairGate.State τ :=
  ⟨s.data.raidmeta.data.raid4.writecount, s.data.raidmeta.data.raid4.repairing,
    fun t => gatePC (s.pc t).tag⟩

/-- The counts of the code's waiting protocols are the gate's invariant. -/
theorem gateInv_of_counts [Fintype τ] {s : System τ} (hT : IsParity T) (hc : Counts c T s.data s.pc) :
    RepairGate.Inv (gateView s) := by
  refine ⟨?_, ?_, fun u v hu hv => ?_⟩
  · show s.data.raidmeta.data.raid4.writecount =
      (count (· = RepairGate.PC.winside) fun t => gatePC (s.pc t).tag : Int)
    rw [hc.writers hT]
    exact congrArg Nat.cast (count_congr fun t => (gatePC_eq_winside _).symm)
  · show s.data.raidmeta.data.raid4.repairing =
      (count RepairGate.Announced fun t => gatePC (s.pc t).tag : Int)
    rw [hc.repairers hT]
    exact congrArg Nat.cast (count_congr fun t => (announced_gatePC _).symm)
  · exact hc.exclusive u v ((gatePC_eq_winside _).mp hu) ((gatePC_eq_rinside _).mp hv)

/-- The gate's invariant holds of the code. On a RAID4 or RAID5 array that
`setraidtype` has set up, in every state of a run of any number of threads
calling `readraid`, `writeraid`, `raidfail`, `raidrepair` and `raiddestroy`,
`writecount` counts the writers between `writecount++` and `writecount--`,
`repairing` the repairs between `repairing++` and `repairing--`, and no writer
is inside while a repair is past its wait loop. -/
theorem parity_gate_holds [Fintype τ] [DecidableEq τ] {s₀ d : RaidState} {type : Int}
    {s : System τ} (hset : setraidtype c type s₀ = .ok (0, d)) (hT : IsParity d.raidmeta.type)
    (hrun : Reachable (Calls d) (step (code c)) s) : RepairGate.Inv (gateView s) :=
  gateInv_of_counts hT (waitInv_of_reachable (setUp_setraidtype hset) hrun).counts

end Xv6Raid.LockLevel
