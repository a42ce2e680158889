import Xv6Raid.Protocol.LockSteps

/-!
Where the code of a thread can still go, with data of one's choosing at each
step. Every loop of the lock-level model has an exit (`reaches_acqAll` and the
like), and a thread at a place in the waiting protocols can still wake the
channel of that place (`canWake_of_tag`): a parity writer inside `writecount`
reaches `wakeup(&raiddata->writecount)`, a repairer that has announced itself
reaches `wakeup(&raiddata->repairing)`, and a writer or reader of a pair
reaches `wakeup(diskpair)`. This is what `WaitsFor` asks of the thread a
sleeper waits on.
-/

namespace Xv6Raid.LockLevel

open LockProgram

/-- The channel a thread at each place in the protocols will wake. -/
def Tag.chan : Tag → Option Chan
  | .idle => none
  | .wInside | .wWake => some .writecount
  | .rAnnounced _ | .rWake => some .repairing
  | .pWriter p | .pSlot p _ | .pPost p => some (.pair p)

@[simp] theorem Chan.wakeTag_chan (ch : Chan) : ch.wakeTag.chan = some ch := by
  cases ch <;> rfl

/-- Data with no writer, no repairer, no cluster loaded and no valid disk: on
it every loop of the code moves on to its next round. -/
def idleData : RaidState := ⟨RAIDMeta.zero, fun _ _ => 0⟩

@[simp] theorem idleData_valid (i : Nat) : (idleData.raidmeta.diskinfo i).valid = false := rfl
@[simp] theorem idleData_writecount : idleData.raidmeta.data.raid4.writecount = 0 := rfl
@[simp] theorem idleData_repairing : idleData.raidmeta.data.raid4.repairing = 0 := rfl
@[simp] theorem idleData_cluster_loaded (k : Nat) :
    idleData.raidmeta.data.raid4.cluster_loaded k = false := rfl

section Loops

variable {c : Config}

theorem code_ne_done {p : PC} (hp : p ≠ .done) (hf : p ≠ .fault) : code c p ≠ .done := by
  cases p <;> simp_all [code]
  all_goals split_ifs <;> simp

theorem reaches_acqAll (i : Nat) (k : PC) : Reaches (code c) (.acqAll i k) k := by
  induction hn : c.DISKS - i generalizing i with
  | zero =>
    refine .of_next idleData (code_ne_done (by simp) (by simp)) ?_
    simp only [next, code, show ¬ i < c.DISKS by omega, if_false]
    exact .refl k
  | succ n ih =>
    have hi : i < c.DISKS := by omega
    refine .of_next idleData (code_ne_done (by simp) (by simp)) ?_
    simp only [next, code, hi, if_true]
    exact ih (i + 1) (by omega)

theorem reaches_relAll (i : Nat) (k : PC) : Reaches (code c) (.relAll i k) k := by
  induction hn : c.DISKS - i generalizing i with
  | zero =>
    refine .of_next idleData (code_ne_done (by simp) (by simp)) ?_
    simp only [next, code, show ¬ i < c.DISKS by omega, if_false]
    exact .refl k
  | succ n ih =>
    have hi : i < c.DISKS := by omega
    refine .of_next idleData (code_ne_done (by simp) (by simp)) ?_
    simp only [next, code, hi, if_true]
    exact ih (i + 1) (by omega)

theorem reaches_metaWrite (i : Nat) (k : PC) : Reaches (code c) (.metaWrite i k) k := by
  induction hn : c.DISKS + 1 - i generalizing i with
  | zero =>
    refine .of_next idleData (code_ne_done (by simp) (by simp)) ?_
    simp only [next, code, show ¬ i ≤ c.DISKS by omega, if_false]
    exact reaches_relAll 0 k
  | succ n ih =>
    refine .of_next idleData (code_ne_done (by simp) (by simp)) ?_
    simp only [next, code, show i ≤ c.DISKS by omega, if_true, idleData_valid,
      Bool.false_eq_true, if_false]
    exact ih (i + 1) (by omega)

theorem reaches_writeraidmeta (k : PC) : Reaches (code c) (writeraidmeta k) k :=
  (reaches_acqAll 0 _).trans (reaches_metaWrite 1 k)

theorem reaches_invScan (e i : Nat) (k : PC) : Reaches (code c) (.invScan e i k) k := by
  induction hn : c.DISKS - i generalizing i with
  | zero =>
    refine .of_next idleData (code_ne_done (by simp) (by simp)) ?_
    simp only [next, code, show ¬ i < c.DISKS by omega, if_false]
    exact .refl k
  | succ n ih =>
    refine .of_next idleData (code_ne_done (by simp) (by simp)) ?_
    simp only [next, code, show i < c.DISKS by omega, if_true]
    split_ifs
    · exact .head rfl (ih (i + 1) (by omega))
    · exact ih (i + 1) (by omega)

/-- One block of `loadclusterraid`: the loop over the disks, then the parity. -/
theorem reaches_loadScan_row (t : RAID_TYPE) (k b i : Nat) (after : PC)
    (hb : b < k * CLUSTER_SIZE + CLUSTER_SIZE) :
    Reaches (code c) (.loadScan t k b i after) (.loadScan t k (b + 1) 0 after) := by
  induction hn : (if t = .RAID4 then c.DISKS - 1 else c.DISKS) - i generalizing i with
  | zero =>
    refine .of_next idleData (code_ne_done (by simp) (by simp)) ?_
    simp only [next, code, loadScanStep, hb, if_true,
      show ¬ i < (if t = .RAID4 then c.DISKS - 1 else c.DISKS) by omega, if_false,
      idleData_valid, Bool.false_eq_true]
    exact .refl _
  | succ n ih =>
    refine .of_next idleData (code_ne_done (by simp) (by simp)) ?_
    simp only [next, code, loadScanStep, hb, if_true,
      show i < (if t = .RAID4 then c.DISKS - 1 else c.DISKS) by omega, idleData_valid,
      Bool.false_and, Bool.false_eq_true, if_false]
    exact ih (i + 1) (by omega)

theorem reaches_loadScan (t : RAID_TYPE) (k b i : Nat) (after : PC) :
    Reaches (code c) (.loadScan t k b i after) after := by
  induction hn : k * CLUSTER_SIZE + CLUSTER_SIZE - b generalizing b i with
  | zero =>
    refine .of_next idleData (code_ne_done (by simp) (by simp)) ?_
    simp only [next, code, loadScanStep, show ¬ b < k * CLUSTER_SIZE + CLUSTER_SIZE by omega,
      if_false]
    exact (reaches_relAll 0 _).trans (reaches_writeraidmeta after)
  | succ n ih =>
    exact (reaches_loadScan_row t k b i after (by omega)).trans (ih (b + 1) 0 (by omega))

theorem reaches_rpCopy (n p e b : Nat) : Reaches (code c) (.rpCopy n p e b) (.rpValid n p) := by
  induction hn : diskblockn + 1 - b generalizing b with
  | zero =>
    refine .of_next idleData (code_ne_done (by simp) (by simp)) ?_
    simp only [next, code, rpCopyNext, show ¬ b ≤ diskblockn by omega, if_false]
    exact .head rfl (.head rfl (.refl _))
  | succ m ih =>
    refine .of_next idleData (code_ne_done (by simp) (by simp)) ?_
    simp only [next, code, rpCopyNext, show b ≤ diskblockn by omega, if_true]
    exact .head rfl (.head rfl (ih (b + 1) (by omega)))

theorem reaches_prScan (n b i : Nat) : Reaches (code c) (.prScan n b i) (.prBlock n (b + 1)) := by
  induction hn : c.DISKS - i generalizing i with
  | zero =>
    refine .of_next idleData (code_ne_done (by simp) (by simp)) ?_
    simp only [next, code, prScanNext, show ¬ i < c.DISKS by omega, if_false]
    exact .head rfl (.refl _)
  | succ m ih =>
    refine .of_next idleData (code_ne_done (by simp) (by simp)) ?_
    simp only [next, code, prScanNext, show i < c.DISKS by omega, if_true]
    split_ifs
    · exact .head rfl (ih (i + 1) (by omega))
    · exact ih (i + 1) (by omega)

/-- The block loop of the parity repair, taken with no cluster loaded, ends at
the exit through `repairlock`. -/
theorem reaches_prBlock (n b : Nat) :
    Reaches (code c) (.prBlock n b) (.acq (.lock .repair) .prExit) := by
  induction hn : diskblockn + 1 - b generalizing b with
  | zero =>
    refine .of_next idleData (code_ne_done (by simp) (by simp)) ?_
    simp only [next, code, prBlockStep, show ¬ b ≤ diskblockn by omega, if_false]
    exact reaches_relAll 0 _
  | succ m ih =>
    have hb : b ≤ diskblockn := by omega
    refine .of_next idleData (code_ne_done (by simp) (by simp)) ?_
    simp only [next, code, prBlockStep, hb, if_true]
    -- `prCluster` takes `clusterlock`; the cluster is not loaded, so the block is skipped
    refine .head rfl (.of_next idleData (code_ne_done (by simp) (by simp)) ?_)
    simp only [next, code, prLoadedNext_eq hb, idleData_cluster_loaded, Bool.false_eq_true,
      if_false]
    exact .head rfl (ih (b + 1) (by omega))

theorem reaches_wrTest (p : Nat) (i : Fin 2) : Reaches (code c) (.wrTest p i) (.wrClear p .done) := by
  have hlast : Reaches (code c) (.wrTest p 1) (.wrClear p .done) := by
    refine .of_next idleData (code_ne_done (by simp) (by simp)) ?_
    simp only [next, code, wrTestStep, idleData_valid, Bool.false_eq_true, if_false]
    exact .head rfl (.head rfl (.head rfl (.refl _)))
  by_cases hi : i = 0
  · subst hi
    refine .of_next idleData (code_ne_done (by simp) (by simp)) ?_
    simp only [next, code, wrTestStep, idleData_valid, Bool.false_eq_true, if_false, if_true]
    exact hlast
  · rw [show i = 1 by omega]
    exact hlast

/-- Each write path of `raid4write` and `raid5write` ends at the exit through
`repairlock`; on data with no valid disk, the degraded one. -/
theorem reaches_wPath (t : RAID_TYPE) (x : Nat) : Reaches (code c) (.wPath t x) .wExit := by
  refine .of_next idleData (code_ne_done (by simp) (by simp)) ?_
  simp only [next, code, wPathNext, idleData_valid, Bool.not_false, if_true]
  refine (reaches_acqAll 0 _).trans ((reaches_invScan _ 0 _).trans ?_)
  exact .head rfl (.head rfl ((reaches_relAll 0 _).trans (.head rfl (.refl _))))

end Loops

section Wakers

variable {c : Config} {T : RAID_TYPE} {P : Nat → Fin 2 → Nat}

/-! The points that wake each channel, reached from the places of its protocol. -/

theorem canWake_wExit : CanWake (code c) .writecount .wExit := by
  -- the last writer out makes `writecount` zero
  have h : Reaches (code c) .wExit (.wake .writecount (.rel (.lock .repair) .done)) := by
    refine .of_next (addWritecount 1 idleData) (code_ne_done (by simp) (by simp)) ?_
    simp only [next, code, wExitStep, addWritecount_writecount, idleData_writecount]
    exact .refl _
  exact .of_reaches h (.wakeup rfl)

theorem canWake_prExit : CanWake (code c) .repairing .prExit := by
  have h : Reaches (code c) .prExit
      (.wake .repairing (.rel (.lock .repair) (writeraidmeta .done))) := by
    refine .of_next (addRepairing 1 idleData) (code_ne_done (by simp) (by simp)) ?_
    simp only [next, code, prExitStep, addRepairing_repairing, idleData_repairing]
    exact .refl _
  exact .of_reaches h (.wakeup rfl)

theorem canWake_wrClear (p : Nat) (k : PC) : CanWake (code c) (.pair p) (.wrClear p k) :=
  .of_reaches (.of_next idleData (code_ne_done (by simp) (by simp)) (.head rfl (.refl _)))
    (.wakeup rfl)

theorem canWake_rdClear (p : Nat) (i : Fin 2) : CanWake (code c) (.pair p) (.rdClear p i) :=
  .of_reaches (.of_next idleData (code_ne_done (by simp) (by simp)) (.head rfl (.refl _)))
    (.wakeup rfl)

theorem canWake_prBlock (n b : Nat) : CanWake (code c) .repairing (.prBlock n b) :=
  .of_reaches ((reaches_prBlock n b).trans (.head rfl (.refl _))) canWake_prExit

/-- A thread at a place in the protocols can still wake the channel of its
place. The induction is on the program point: straight-line code and loops
pass the place of the code they lead to, and each place of its own has a path
to its `wakeup`. -/
theorem canWake_of_tag {p : PC} {ch : Chan} (hp : WF c T P p) (h : p.tag.chan = some ch) :
    CanWake (code c) ch p := by
  induction p with
  | acq l k ih => exact .succ rfl (ih hp.2.2.2 (by simpa using h))
  | rel l k ih => exact .succ rfl (ih hp.2 (by simpa using h))
  | io r k ih => exact .succ rfl (ih hp (by simpa using h))
  | wake ch' k _ =>
    cases ch' <;> simp only [PC.tag, Tag.chan, Option.some.injEq] at h <;> subst h <;>
      exact .wakeup rfl
  | acqAll i k ih =>
    exact .of_reaches (reaches_acqAll i k) (ih hp.2.2 (by simpa using h))
  | relAll i k ih =>
    exact .of_reaches (reaches_relAll i k) (ih hp.2 (by simpa using h))
  | metaWrite i k ih =>
    exact .of_reaches (reaches_metaWrite i k) (ih hp.2 (by simpa using h))
  | loadScan t k b i after ih =>
    exact .of_reaches (reaches_loadScan t k b i after) (ih hp.2.2 (by simpa using h))
  | invScan e i k ih =>
    exact .of_reaches (reaches_invScan e i k) (ih hp (by simpa using h))
  | rdDiskn p i =>
    simp only [PC.tag, Tag.chan, Option.some.injEq] at h
    subst h
    refine .of_reaches (.of_next idleData (code_ne_done (by simp) (by simp)) ?_) (canWake_rdClear p i)
    exact .head rfl (.head rfl (.head rfl (.head rfl (.refl _))))
  | rdClear p i =>
    simp only [PC.tag, Tag.chan, Option.some.injEq] at h
    subst h
    exact canWake_rdClear p i
  | wrTest p i =>
    simp only [PC.tag, Tag.chan, Option.some.injEq] at h
    subst h
    exact .of_reaches (reaches_wrTest p i) (canWake_wrClear p _)
  | wrClear p k _ =>
    simp only [PC.tag, Tag.chan, Option.some.injEq] at h
    subst h
    exact canWake_wrClear p k
  | rpCopy n p e b =>
    simp only [PC.tag, Tag.chan, Option.some.injEq] at h
    subst h
    refine .of_reaches (reaches_rpCopy n p e b) ?_
    exact .of_reaches (.of_next idleData (code_ne_done (by simp) (by simp)) (.head rfl (.refl _)))
      (canWake_wrClear p _)
  | rpValid n p =>
    simp only [PC.tag, Tag.chan, Option.some.injEq] at h
    subst h
    exact .of_reaches (.of_next idleData (code_ne_done (by simp) (by simp)) (.head rfl (.refl _)))
      (canWake_wrClear p _)
  | wLoaded t x =>
    simp only [PC.tag, Tag.chan, Option.some.injEq] at h
    subst h
    -- with the cluster loaded, the writer goes straight to its write path
    have hk := clusterOf_lt (c := c) hp.2.2.2
    refine .of_reaches (.of_next (setclusterloaded (clusterOf c x) idleData)
      (code_ne_done (by simp) (by simp)) ?_) canWake_wExit
    simp only [next, code, wLoadedNext, Nat.not_le.mpr hk, if_false]
    simp only [setclusterloaded, RaidState.setRaid4, Function.update_self, if_true]
    exact .head rfl (reaches_wPath t x)
  | wPath t x =>
    simp only [PC.tag, Tag.chan, Option.some.injEq] at h
    subst h
    exact .of_reaches (reaches_wPath t x) canWake_wExit
  | wExit =>
    simp only [PC.tag, Tag.chan, Option.some.injEq] at h
    subst h
    exact canWake_wExit
  | prGate n first =>
    cases first
    · simp only [PC.tag, Bool.false_eq_true, if_false, Tag.chan, Option.some.injEq] at h
      subst h
      -- with no writer inside, the repairer leaves its wait loop
      refine .of_reaches (.of_next idleData (code_ne_done (by simp) (by simp)) ?_)
        (canWake_prBlock n 0)
      simp only [next, code, prGateStep, Bool.false_eq_true, if_false, idleData_writecount,
        ne_eq, not_true_eq_false, false_and]
      exact .head rfl (reaches_acqAll 0 _)
    · simp [Tag.chan] at h
  | prBlock n b =>
    simp only [PC.tag, Tag.chan, Option.some.injEq] at h
    subst h
    exact canWake_prBlock n b
  | prCluster n b =>
    simp only [PC.tag, Tag.chan, Option.some.injEq] at h
    subst h
    refine .succ rfl (.of_reaches (.of_next idleData (code_ne_done (by simp) (by simp)) ?_)
      (canWake_prBlock n (b + 1)))
    simp only [next, code, prLoadedNext_eq hp.2, idleData_cluster_loaded, Bool.false_eq_true,
      if_false]
    exact .head rfl (.refl _)
  | prLoaded n b =>
    simp only [PC.tag, Tag.chan, Option.some.injEq] at h
    subst h
    refine .of_reaches (.of_next idleData (code_ne_done (by simp) (by simp)) ?_)
      (canWake_prBlock n (b + 1))
    simp only [next, code, prLoadedNext_eq hp.2, idleData_cluster_loaded, Bool.false_eq_true,
      if_false]
    exact .head rfl (.refl _)
  | prScan n b i =>
    simp only [PC.tag, Tag.chan, Option.some.injEq] at h
    subst h
    exact .of_reaches (reaches_prScan n b i) (canWake_prBlock n (b + 1))
  | prExit =>
    simp only [PC.tag, Tag.chan, Option.some.injEq] at h
    subst h
    exact canWake_prExit
  | slp | init => exact hp.elim
  | _ => simp [Tag.chan] at h

end Wakers

end Xv6Raid.LockLevel
