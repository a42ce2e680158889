import Xv6Raid.Model.LockLevel
import Xv6Raid.Spec.ParityCalls

/-!
The locks each program point of the lock-level model holds, read off the code
that follows it, and the conditions under which that annotation is the lock
table along every run (kernel/raid.c, raid4.c, raid5.c).

The runs considered are those of an array set up by `setraidtype` of type `T`,
with pair `p` of a mirrored array on the disk indices `P p 0 < P p 1`, and no
`setraidtype` during the run: the pairs and the type stay fixed (`Good`). A
point is well formed (`WF`) when each `acq` is followed by code that holds the
lock, each `rel` by code that does not, and the locks taken after others are
of higher rank (`Lock.rank`: spinlocks, then `clusterlock`, then the disk locks
in ascending order). The one exception to that order is `raidrepair`'s RAID4
and RAID5 case, which takes `clusterlock` while it holds every disk lock. A
thread is at a well-formed point or at the `sleep` of a loop whose test has
found its condition (`At`); the sleep goes back to its loop holding nothing.

Each point also says where its thread stands in the two waiting protocols of
the layer (`PC.tag`): the `writecount`/`repairing` gate of the parity levels,
and the `writing`/`reading` flags of a mirrored pair.
-/

namespace Xv6Raid.LockLevel

open LockProgram

/-- Where a thread stands in the waiting protocols of the layer. -/
inductive Tag
  /-- In neither protocol. -/
  | idle
  /-- A parity writer between `writecount++` and `writecount--`. -/
  | wInside
  /-- A parity writer that made `writecount` zero and will wake the repairers. -/
  | wWake
  /-- A parity repairer between `repairing++` and `repairing--`; `past` once it
  has left its wait loop. -/
  | rAnnounced (past : Bool)
  /-- A parity repairer that made `repairing` zero and will wake the writers. -/
  | rWake
  /-- The thread that set `writing` of pair `p`: a writer or a mirror repair. -/
  | pWriter (p : Nat)
  /-- The reader that set `reading[i]` of pair `p`. -/
  | pSlot (p : Nat) (i : Fin 2)
  /-- A thread that cleared its flag of pair `p` and will wake the pair's sleepers. -/
  | pPost (p : Nat)
  deriving DecidableEq

/-- The place of a program point in the waiting protocols. Straight-line code
has the place of the point it leads to; a `wakeup` is the last point of the
place it ends. -/
def PC.tag : PC → Tag
  | .acq _ k | .rel _ k | .slp _ _ k | .io _ k | .init _ k | .acqAll _ k | .relAll _ k
  | .metaWrite _ k | .loadScan _ _ _ _ k | .invScan _ _ k => k.tag
  | .wake (.pair p) _ => .pPost p
  | .wake .writecount _ => .wWake
  | .wake .repairing _ => .rWake
  | .wLoaded _ _ | .wPath _ _ | .wExit => .wInside
  | .prGate _ first => if first then .idle else .rAnnounced false
  | .prBlock _ _ | .prCluster _ _ | .prLoaded _ _ | .prScan _ _ _ | .prExit => .rAnnounced true
  | .wrTest p _ | .wrClear p _ | .rpCopy _ p _ _ | .rpValid _ p => .pWriter p
  | .rdDiskn p i | .rdClear p i => .pSlot p i
  | _ => .idle

/-- The order in which the code takes locks: a spinlock, then `clusterlock`,
then the disk locks by index. -/
def Lock.rank : Lock → Nat
  | .mutex _ | .repair => 0
  | .cluster => 1
  | .disk j => 2 + j

def Chan.lock : Chan → Lock
  | .pair p => .mutex p
  | _ => .repair

/-- The points a thread sleeping on each channel goes back to: the spinlock
again, then the test of its loop. -/
def SleepsAt : Chan → PC → Prop
  | .pair p, q => q = .acq (.lock (.mutex p)) (.rdLoop p) ∨
      q = .acq (.lock (.mutex p)) (.wrLoop p) ∨ ∃ d e, q = .acq (.lock (.mutex p)) (.rpLoop d p e)
  | .repairing, q => ∃ t x, q = .acq (.lock .repair) (.wGate t x)
  | .writecount, q => ∃ d, q = .acq (.lock .repair) (.prGate d false)

variable (c : Config) (T : RAID_TYPE) (P : Nat → Fin 2 → Nat)

def LockRef.res : LockRef → Lock
  | .lock l => l
  | .pairDisk p i => .disk (P p i)

/-- The data of a run on an array of type `T` with the pairs `P`. -/
def Good (d : RaidState) : Prop :=
  d.raidmeta.type = T ∧ ∀ p, (d.raidmeta.data.diskpair p).disk = P p

/-- The locks a thread at each point holds: the code after an `acq` holds one
lock more, the code after a `rel` one lock fewer. -/
def held : PC → Lock → Prop
  | .acq l k, m => held k m ∧ m ≠ l.res P
  | .rel l k, m => held k m ∨ m = l.res P
  | .slp _ l k, m => held k m ∨ m = l
  | .wake _ k, m | .io _ k, m | .init _ k, m | .invScan _ _ k, m => held k m
  | .acqAll i k, m => held k m ∧ ¬ ∃ j, i ≤ j ∧ j < c.DISKS ∧ m = .disk j
  | .relAll i k, m => held k m ∨ ∃ j, i ≤ j ∧ j < c.DISKS ∧ m = .disk j
  | .metaWrite _ k, m | .loadScan _ _ _ _ k, m => held k m ∨ ∃ j < c.DISKS, m = .disk j
  | .rdLoop p, m | .rdClear p _, m | .wrLoop p, m | .rpLoop _ p _, m => m = .mutex p
  | .wrClear p k, m => m = .mutex p ∨ held k m
  | .wrTest p _, m | .rpCopy _ p _ _, m => m = .disk (P p 0) ∨ m = .disk (P p 1)
  | .wGate _ _, m | .wExit, m | .prGate _ _, m | .prExit, m => m = .repair
  | .wLoaded _ _, m => m = .cluster
  | .prBlock _ _, m | .prCluster _ _, m | .prScan _ _ _, m => ∃ j < c.DISKS, m = .disk j
  | .prLoaded _ _, m => (∃ j < c.DISKS, m = .disk j) ∨ m = .cluster
  | _, _ => False

attribute [simp] PC.tag held

/-- What a parity writer of block `x` knows once it has passed the checks of
`writeraid`: its level is the array's, the array has a parity disk besides a
data disk, and `x` lies on a stripe of the disks. -/
def WriterArgs (t : RAID_TYPE) (x : Nat) : Prop :=
  t = T ∧ (t = .RAID4 ∨ t = .RAID5) ∧ 2 ≤ c.DISKS ∧ x / (c.DISKS - 1) < diskblockn

def MirrorPair (p : Nat) : Prop :=
  T = .RAID1 ∧ p < (c.DISKS + 1) / 2 ∨ T = .RAID0_1 ∧ p < c.DISKS / 2

def IsParity : Prop := T = .RAID4 ∨ T = .RAID5

/-- The pairs `setraidtype` sets up for a mirrored type `T` lie on two disk
indices in ascending order. -/
def PairsOrdered : Prop := ∀ p, MirrorPair c T p → P p 0 < P p 1

/-- The code at and after a point keeps the annotation and the lock order. -/
def WF : PC → Prop
  | .acq l k => held c P k (l.res P) ∧
      (∀ m, held c P k m → m ≠ l.res P → m.rank < (l.res P).rank) ∧
      (held c P k .cluster → l.res P = .cluster) ∧ WF k
  | .rel l k => ¬ held c P k (l.res P) ∧ WF k
  | .wake _ k => k.tag = .idle ∧ WF k
  | .io _ k | .invScan _ _ k => WF k
  | .slp _ _ _ | .init _ _ | .setraidtype _ => False
  | .acqAll _ k => (∀ j, held c P k (.disk j) ↔ j < c.DISKS) ∧
      (held c P k .cluster → k.tag = .wInside) ∧ WF k
  | .relAll _ k | .metaWrite _ k => (∀ j, ¬ held c P k (.disk j)) ∧ WF k
  | .loadScan _ _ _ _ k => (∀ j, ¬ held c P k (.disk j)) ∧
      (held c P k .cluster → k.tag = .wInside) ∧ WF k
  | .wrClear p k => (∀ m, ¬ held c P k m) ∧ k.tag = .idle ∧ MirrorPair c T p ∧ WF k
  | .rdLoop p | .rdDiskn p _ | .rdClear p _ | .wrLoop p | .wrTest p _ | .rpLoop _ p _
  | .rpCopy _ p _ _ | .rpValid _ p => MirrorPair c T p
  | .wGate t x | .wLoaded t x | .wPath t x => WriterArgs c T t x
  | .wExit | .prGate _ _ | .prBlock _ _ | .prScan _ _ _ | .prExit => IsParity T
  | .prCluster _ b | .prLoaded _ b => IsParity T ∧ b ≤ diskblockn
  | _ => True

attribute [simp] WF

/-- What a sleeper on each channel waits to change: the flags of the pair,
`writecount`, or `repairing`. -/
def Pending : Chan → RaidState → Prop
  | .pair p, d => (d.raidmeta.data.diskpair p).writing = true ∨
      (d.raidmeta.data.diskpair p).reading 0 = true ∨ (d.raidmeta.data.diskpair p).reading 1 = true
  | .writecount, d => d.raidmeta.data.raid4.writecount ≠ 0
  | .repairing, d => d.raidmeta.data.raid4.repairing ≠ 0

/-- The points a thread can be at on data `d`: a well-formed point, or the
`sleep` of a loop whose test has found the condition it waits on. -/
def At (d : RaidState) (p : PC) : Prop :=
  WF c T P p ∨ ∃ ch k, p = .slp ch ch.lock k ∧ SleepsAt ch k ∧ WF c T P k ∧ Pending ch d


section Annotation

variable {c T P} {d : RaidState} {p q : PC} {m : Lock}

@[simp] theorem LockRef.res_lock (l : Lock) : (LockRef.lock l).res P = l := rfl
@[simp] theorem LockRef.res_pairDisk (p : Nat) (i : Fin 2) :
    (LockRef.pairDisk p i).res P = .disk (P p i) := rfl
@[simp] theorem Lock.rank_disk (j : Nat) : (Lock.disk j).rank = 2 + j := rfl
@[simp] theorem Lock.rank_cluster : Lock.cluster.rank = 1 := rfl
@[simp] theorem Lock.rank_repair : Lock.repair.rank = 0 := rfl
@[simp] theorem Lock.rank_mutex (p : Nat) : (Lock.mutex p).rank = 0 := rfl
@[simp] theorem Chan.lock_pair (p : Nat) : (Chan.pair p).lock = .mutex p := rfl

@[simp]
theorem wf_ite {b : Prop} [Decidable b] :
    WF c T P (if b then p else q) ↔ if b then WF c T P p else WF c T P q := by
  split_ifs <;> rfl

@[simp]
theorem held_ite {b : Prop} [Decidable b] :
    held c P (if b then p else q) m ↔ if b then held c P p m else held c P q m := by
  split_ifs <;> rfl

theorem LockRef.get_eq_res (hd : Good T P d) (l : LockRef) : l.get d = l.res P := by
  cases l with
  | lock l => rfl
  | pairDisk p i => simp only [LockRef.get, LockRef.res, hd.2 p]

theorem not_held_of_sleepsAt {ch : Chan} (h : SleepsAt ch q) (m : Lock) : ¬ held c P q m := by
  cases ch with
  | pair p => rcases h with rfl | rfl | ⟨n, e, rfl⟩ <;> simp
  | writecount =>
    obtain ⟨n, rfl⟩ := h
    simp
  | repairing =>
    obtain ⟨t, x, rfl⟩ := h
    simp

theorem not_held_writeraidmeta (m : Lock) : ¬ held c P (writeraidmeta .done) m := by
  simp [writeraidmeta]

/-! The calls reach their first lock holding nothing. -/

theorem not_held_readEntry (x : Int) (d : RaidState) (m : Lock) :
    ¬ held c P (readEntry c x d) m := by
  unfold readEntry
  repeat' split
  all_goals simp

theorem not_held_writeEntry (x : Int) (d : RaidState) (m : Lock) :
    ¬ held c P (writeEntry c x d) m := by
  unfold writeEntry
  repeat' split
  all_goals simp

theorem not_held_mirrorEntry (n p : Nat) (k : Int) (d : RaidState) (m : Lock) :
    ¬ held c P (mirrorEntry n p k d) m := by
  unfold mirrorEntry
  repeat' split
  all_goals simp

theorem not_held_repairEntry (n : Int) (d : RaidState) (m : Lock) :
    ¬ held c P (repairEntry c n d) m := by
  unfold repairEntry
  repeat' split
  all_goals simp [not_held_mirrorEntry]

theorem not_held_failStep (n : Int) (d : RaidState) : ¬ held c P (failStep c n d).2 m := by
  unfold failStep
  split_ifs <;> simp [writeraidmeta]

theorem not_held_destroyStep (d : RaidState) : ¬ held c P (destroyStep d).2 m := by
  unfold destroyStep
  split_ifs <;> simp [writeraidmeta]

/-! The loops of the mirrored pairs keep the mutex or the two disk locks. -/

theorem held_rdLoopStep (p : Nat) (d : RaidState) :
    held c P (rdLoopStep p d).2 m ↔ m = .mutex p := by
  unfold rdLoopStep
  dsimp only
  split_ifs <;> (try split) <;> simp

theorem held_wrLoopStep (p : Nat) (d : RaidState) :
    held c P (wrLoopStep p d).2 m ↔ m = .mutex p := by
  unfold wrLoopStep
  dsimp only
  split_ifs <;> simp
  grind

theorem held_rpLoopStep (n p e : Nat) (d : RaidState) :
    held c P (rpLoopStep n p e d).2 m ↔ m = .mutex p := by
  unfold rpLoopStep
  dsimp only
  split_ifs <;> simp
  grind

theorem held_wrTestStep (p : Nat) (i : Fin 2) (d : RaidState) :
    held c P (wrTestStep p i d) m ↔ m = .disk (P p 0) ∨ m = .disk (P p 1) := by
  unfold wrTestStep
  dsimp only
  split_ifs <;> simp [or_comm]

theorem held_rpCopyNext (n p e b : Nat) :
    held c P (rpCopyNext n p e b) m ↔ m = .disk (P p 0) ∨ m = .disk (P p 1) := by
  unfold rpCopyNext
  split_ifs <;> simp [or_comm]

/-! `loadclusterraid` and the writers and repairers of the parity levels. -/

theorem held_loadScanStep (t : RAID_TYPE) (k b i : Nat) (after : PC) (d : RaidState) :
    held c P (loadScanStep c t k b i after d).2 m ↔ held c P (.loadScan t k b i after) m := by
  unfold loadScanStep
  dsimp only
  split_ifs <;> simp [writeraidmeta]
  grind

theorem held_wGateStep (t : RAID_TYPE) (x : Nat) (d : RaidState) :
    held c P (wGateStep t x d).2 m ↔ m = .repair := by
  unfold wGateStep
  split_ifs <;> simp

theorem clusterOf_lt {x : Nat} (h : x / (c.DISKS - 1) < diskblockn) : clusterOf c x < NCLUSTERS := by
  simp only [clusterOf, CLUSTER_SIZE, NCLUSTERS_eq]
  rw [diskblockn_eq] at h
  omega

/-- The writer's test of `cluster_loaded` never faults: the cluster is in range
and the array is of the writer's level. -/
theorem wLoadedNext_eq {t : RAID_TYPE} {x : Nat} (ha : WriterArgs c T t x) (hd : Good T P d) :
    wLoadedNext c t x d = if d.raidmeta.data.raid4.cluster_loaded (clusterOf c x) = true
      then .rel (.lock .cluster) (.wPath t x)
      else .acqAll 0 (.loadScan t (clusterOf c x) (clusterOf c x * CLUSTER_SIZE) 0
        (.rel (.lock .cluster) (.wPath t x))) := by
  have hk := clusterOf_lt ha.2.2.2
  have ht : d.raidmeta.type = t := hd.1.trans ha.1.symm
  simp only [wLoadedNext, Nat.not_le.mpr hk, if_false, ht, ne_eq, not_true_eq_false]

theorem held_wLoadedNext {t : RAID_TYPE} {x : Nat} (ha : WriterArgs c T t x) (hd : Good T P d) :
    held c P (wLoadedNext c t x d) m ↔ m = .cluster := by
  rw [wLoadedNext_eq ha hd]
  split_ifs <;> simp
  grind

theorem not_held_wPathNext (t : RAID_TYPE) (x : Nat) (d : RaidState) :
    ¬ held c P (wPathNext c t x d) m := by
  unfold wPathNext
  dsimp only
  split_ifs <;> simp
  grind

theorem held_wExitStep (d : RaidState) : held c P (wExitStep d).2 m ↔ m = .repair := by
  unfold wExitStep
  dsimp only
  split_ifs <;> simp

theorem held_prGateStep (n : Nat) (first : Bool) (d : RaidState) :
    held c P (prGateStep n first d).2 m ↔ m = .repair := by
  unfold prGateStep
  dsimp only
  split_ifs <;> simp

theorem held_prBlockStep (n b : Nat) (d : RaidState) :
    held c P (prBlockStep n b d).2 m ↔ ∃ j < c.DISKS, m = .disk j := by
  unfold prBlockStep
  split_ifs <;> simp

/-- The repairer's test of `cluster_loaded` never faults: its block is a block
of a disk. -/
theorem prLoadedNext_eq {b : Nat} (hb : b ≤ diskblockn) (n : Nat) (d : RaidState) :
    prLoadedNext n b d = if d.raidmeta.data.raid4.cluster_loaded (b / CLUSTER_SIZE) = true
      then .rel (.lock .cluster) (.prScan n b 0) else .rel (.lock .cluster) (.prBlock n (b + 1)) := by
  have hk : ¬ NCLUSTERS ≤ b / CLUSTER_SIZE := by
    rw [diskblockn_eq] at hb
    simp only [NCLUSTERS_eq, CLUSTER_SIZE]
    omega
  simp only [prLoadedNext, hk, if_false]

theorem held_prLoadedNext {b : Nat} (hb : b ≤ diskblockn) (n : Nat) (d : RaidState) :
    held c P (prLoadedNext n b d) m ↔ (∃ j < c.DISKS, m = .disk j) ∨ m = .cluster := by
  rw [prLoadedNext_eq hb]
  split_ifs <;> simp

theorem held_prScanNext (n b i : Nat) :
    held c P (prScanNext c n b i) m ↔ ∃ j < c.DISKS, m = .disk j := by
  unfold prScanNext
  split_ifs <;> simp

theorem held_prExitStep (d : RaidState) : held c P (prExitStep d).2 m ↔ m = .repair := by
  unfold prExitStep
  dsimp only
  split_ifs <;> simp [writeraidmeta]

theorem agrees_of_wf (hp : WF c T P p) (hd : Good T P d) : Agrees (code c) (held c P) p d := by
  cases p with
  | readraid x =>
    intro m
    simp [not_held_readEntry]
  | writeraid x =>
    intro m
    simp [not_held_writeEntry]
  | raidfail n =>
    intro m
    simp [not_held_failStep]
  | raidrepair n =>
    intro m
    simp [not_held_repairEntry]
  | raiddestroy =>
    intro m
    simp [not_held_destroyStep]
  | acq l k =>
    obtain ⟨hk, -, -, -⟩ := hp
    simp only [Agrees, code, LockRef.get_eq_res hd, held, ne_eq, not_true_eq_false, and_false,
      not_false_eq_true, true_and]
    intro m
    by_cases hm : m = l.res P
    · subst hm
      simp [hk]
    · simp [hm]
  | rel l k =>
    obtain ⟨hk, -⟩ := hp
    simp only [Agrees, code, LockRef.get_eq_res hd, held, or_true, true_and]
    intro m
    by_cases hm : m = l.res P
    · subst hm
      simp [hk]
    · simp [hm]
  | wake ch k | io r k =>
    intro m
    rfl
  | acqAll i k =>
    obtain ⟨hk, -, -⟩ := hp
    by_cases hi : i < c.DISKS
    · simp only [Agrees, code, hi, if_true, held]
      refine ⟨fun h => h.2 ⟨i, le_rfl, hi, rfl⟩, fun m => ?_⟩
      by_cases hm : m = .disk i
      · subst hm
        simp [(hk i).mpr hi]
      · constructor
        · rintro ⟨hkm, hn⟩
          refine .inl ⟨hkm, ?_⟩
          rintro ⟨j, hij, hj, rfl⟩
          exact hn ⟨j, by grind, hj, rfl⟩
        · rintro (⟨hkm, hn⟩ | rfl)
          · exact ⟨hkm, fun ⟨j, hij, hj, he⟩ => hn ⟨j, by omega, hj, he⟩⟩
          · exact absurd rfl hm
    · simp only [Agrees, code, hi, if_false, held]
      intro m
      simp only [iff_self_and]
      rintro - ⟨j, hij, hj, -⟩
      omega
  | relAll i k =>
    obtain ⟨hk, -⟩ := hp
    by_cases hi : i < c.DISKS
    · simp only [Agrees, code, hi, if_true, held]
      refine ⟨.inr ⟨i, le_rfl, hi, rfl⟩, fun m => ?_⟩
      by_cases hm : m = .disk i
      · subst hm
        simp [hk i]
      · constructor
        · rintro (hkm | ⟨j, hij, hj, rfl⟩)
          · exact ⟨.inl hkm, hm⟩
          · exact ⟨.inr ⟨j, by grind, hj, rfl⟩, hm⟩
        · rintro ⟨hkm | ⟨j, hij, hj, rfl⟩, hne⟩
          · exact .inl hkm
          · exact .inr ⟨j, by grind, hj, rfl⟩
    · simp only [Agrees, code, hi, if_false, held]
      intro m
      simp only [iff_self_or]
      rintro ⟨j, hij, hj, -⟩
      omega
  | metaWrite i k | invScan e i k =>
    intro m
    split_ifs <;> simp
  | loadScan t k b i after =>
    intro m
    exact held_loadScanStep t k b i after d
  | rdLoop p =>
    intro m
    simp [held_rdLoopStep]
  | rdDiskn p i | rdClear p i =>
    intro m
    simp
  | wrLoop p =>
    intro m
    simp [held_wrLoopStep]
  | wrTest p i =>
    intro m
    simp [held_wrTestStep]
  | wrClear p k =>
    intro m
    simp [or_comm]
  | rpLoop n p e =>
    intro m
    simp [held_rpLoopStep]
  | rpCopy n p e b =>
    intro m
    simp [held_rpCopyNext]
  | rpValid n p =>
    intro m
    simp [not_held_writeraidmeta]
  | wGate t x =>
    intro m
    simp [held_wGateStep]
  | wLoaded t x =>
    intro m
    simp [held_wLoadedNext hp hd]
  | wPath t x =>
    intro m
    simp [not_held_wPathNext]
  | wExit =>
    intro m
    simp [held_wExitStep]
  | prGate n first =>
    intro m
    simp [held_prGateStep]
  | prBlock n b =>
    intro m
    simp [held_prBlockStep]
  | prCluster n b =>
    simp only [Agrees, code, held]
    refine ⟨fun ⟨j, _, h⟩ => Lock.noConfusion h, fun m => ?_⟩
    simp
  | prLoaded n b =>
    intro m
    simp [held_prLoadedNext hp.2]
  | prScan n b i =>
    intro m
    simp [held_prScanNext]
  | prExit =>
    intro m
    simp [held_prExitStep]
  | done | fault => trivial
  | slp | init | setraidtype => exact hp.elim

theorem agrees_of_sleeping {ch : Chan} {k : PC} (hk : SleepsAt ch k) :
    Agrees (code c) (held c P) (.slp ch ch.lock k) d := by
  simp only [Agrees, code, held, or_true, true_and]
  intro m
  simp [not_held_of_sleepsAt hk m]

/-- The annotation agrees with the instruction at every point a thread can be at. -/
theorem agrees_of_at (hp : At c T P d p) (hd : Good T P d) : Agrees (code c) (held c P) p d := by
  rcases hp with hp | ⟨ch, k, rfl, hk, -, -⟩
  · exact agrees_of_wf hp hd
  · exact agrees_of_sleeping hk

end Annotation

section WellFormed

variable {c T P} {d : RaidState} {p : PC}

theorem writerArgs_of_range {t : RAID_TYPE} {x : Int} (hd : Good T P d)
    (ht : d.raidmeta.type = t) (h45 : t = .RAID4 ∨ t = .RAID5) (hout : ¬ outofrange c x d) :
    WriterArgs c T t x.toNat := by
  have hx : 0 ≤ x ∧ x < raidblockn c d.raidmeta := by
    simp only [outofrange, not_or, not_lt] at hout
    omega
  obtain ⟨h2, hs⟩ := stripeOf_lt c (ht ▸ h45) hx.1 hx.2
  exact ⟨ht.symm.trans hd.1, h45, h2, hs⟩

theorem WriterArgs.isParity {t : RAID_TYPE} {x : Nat} (ha : WriterArgs c T t x) : IsParity T :=
  ha.1 ▸ ha.2.1

theorem datadisk_ne_paritydisk {t : RAID_TYPE} {x : Nat} (ha : WriterArgs c T t x) :
    datadisk c t x ≠ paritydisk c t x := by
  obtain ⟨-, h45, h2, -⟩ := ha
  rcases h45 with rfl | rfl
  · simp only [datadisk, paritydisk, if_true]
    have := Nat.mod_lt x (show 0 < c.DISKS - 1 by omega)
    omega
  · exact raid5disk_ne_parity c h2

theorem wf_readEntry (hd : Good T P d) (x : Int) : WF c T P (readEntry c x d) := by
  unfold readEntry
  by_cases hdes : d.raidmeta.isDestroyed = true
  · simp [hdes]
  rw [if_neg hdes]
  rcases hr : d.raidmeta.read with _ | t
  · simp
  dsimp only
  by_cases hty : d.raidmeta.type = t
  swap
  · simp [hty]
  have hT : T = t := hd.1.symm.trans hty
  rw [if_neg (not_not.mpr hty)]
  by_cases hout : outofrange c x d
  · simp [hout]
  rw [if_neg hout]
  cases t with
  | RAID1 =>
    dsimp only
    split_ifs with hp
    · simp
    · simp [show MirrorPair c T (x.toNat / diskblockn) from .inl ⟨hT, by omega⟩]
  | RAID0_1 =>
    dsimp only
    split_ifs with hp
    · simp
    · simp [show MirrorPair c T (x.toNat % (c.DISKS / 2)) from
        .inr ⟨hT, Nat.mod_lt _ (by omega)⟩]
  | RAID0 | RAID4 | RAID5 =>
    dsimp only
    split_ifs <;> simp

theorem wf_writeEntry (hd : Good T P d) (x : Int) :
    WF c T P (writeEntry c x d) := by
  unfold writeEntry
  by_cases hdes : d.raidmeta.isDestroyed = true
  · simp [hdes]
  rw [if_neg hdes]
  rcases hw : d.raidmeta.write with _ | t
  · simp
  dsimp only
  by_cases hty : d.raidmeta.type = t
  swap
  · simp [hty]
  have hT : T = t := hd.1.symm.trans hty
  rw [if_neg (not_not.mpr hty)]
  by_cases hout : outofrange c x d
  · simp [hout]
  rw [if_neg hout]
  cases t with
  | RAID0 =>
    dsimp only
    split_ifs <;> simp
  | RAID1 =>
    dsimp only
    split_ifs with hp
    · simp
    · simp [show MirrorPair c T (x.toNat / diskblockn) from .inl ⟨hT, by omega⟩]
  | RAID0_1 =>
    dsimp only
    split_ifs with hp
    · simp
    · simp [show MirrorPair c T (x.toNat % (c.DISKS / 2)) from
        .inr ⟨hT, Nat.mod_lt _ (by omega)⟩]
  | RAID4 =>
    dsimp only
    split_ifs <;> simp [writerArgs_of_range hd hty (.inl rfl) hout]
  | RAID5 =>
    dsimp only
    split_ifs <;> simp [writerArgs_of_range hd hty (.inr rfl) hout]

theorem wf_mirrorEntry {n q : Nat} (hq : MirrorPair c T q) (k : Int) (d : RaidState) :
    WF c T P (mirrorEntry n q k d) := by
  unfold mirrorEntry
  repeat' split
  all_goals simp [hq]

theorem wf_repairEntry (hd : Good T P d) (n : Int) :
    WF c T P (repairEntry c n d) := by
  unfold repairEntry
  by_cases hdes : d.raidmeta.isDestroyed = true
  · simp [hdes]
  rw [if_neg hdes]
  by_cases hn : n - 1 < 0 ∨ (c.DISKS : Int) ≤ n - 1
  · rw [if_pos hn]
    simp
  rw [if_neg hn]
  dsimp only
  by_cases hv : (d.raidmeta.diskinfo (n - 1).toNat).valid = true
  · rw [if_pos hv]
    simp
  rw [if_neg hv]
  rcases ht : d.raidmeta.type with _ | _ | _ | _ | _
  · simp
  · exact wf_mirrorEntry (.inl ⟨hd.1.symm.trans ht, by omega⟩) _ d
  · dsimp only
    split_ifs with h0
    · simp
    · exact wf_mirrorEntry (.inr ⟨hd.1.symm.trans ht, Nat.mod_lt _ (by omega)⟩) _ d
  all_goals
    dsimp only
    split_ifs <;> simp [IsParity, ← hd.1, ht]

/-- A reader finds no free slot of a valid disk only while a slot is claimed. -/
theorem reading_of_readslot {dp : DiskPair} {m : RAIDMeta} (h : readslot dp m = none)
    (hv : (m.diskinfo (dp.disk 0)).valid = true ∨ (m.diskinfo (dp.disk 1)).valid = true) :
    dp.reading 0 = true ∨ dp.reading 1 = true := by
  unfold readslot at h
  split_ifs at h with h0 h1
  rcases hv with hv | hv
  · left
    simpa [hv] using h0
  · right
    simpa [hv] using h1

theorem at_rdLoopStep {p : Nat} (hm : MirrorPair c T p) (d : RaidState) :
    At c T P (rdLoopStep p d).1 (rdLoopStep p d).2 := by
  unfold rdLoopStep
  dsimp only
  split_ifs with hinv hw
  · exact .inl (by simp)
  · exact .inr ⟨.pair p, _, rfl, .inl rfl, by simp [hm], .inl hw⟩
  · rcases hs : readslot (d.raidmeta.data.diskpair p) d.raidmeta with _ | i
    · have hv : (d.raidmeta.diskinfo ((d.raidmeta.data.diskpair p).disk 0)).valid = true ∨
          (d.raidmeta.diskinfo ((d.raidmeta.data.diskpair p).disk 1)).valid = true := by
        by_cases h0 : (d.raidmeta.diskinfo ((d.raidmeta.data.diskpair p).disk 0)).valid = true
        · exact .inl h0
        · exact .inr (by simpa [h0] using hinv)
      exact .inr ⟨.pair p, _, rfl, .inl rfl, by simp [hm], .inr (reading_of_readslot hs hv)⟩
    · exact .inl (by simp [hm])

theorem at_wrLoopStep {p : Nat} (hm : MirrorPair c T p) (hp : P p 0 < P p 1) (d : RaidState) :
    At c T P (wrLoopStep p d).1 (wrLoopStep p d).2 := by
  unfold wrLoopStep
  dsimp only
  split_ifs with hinv hbusy
  · exact .inl (by simp)
  · exact .inr ⟨.pair p, _, rfl, .inr (.inl rfl), by simp [hm],
      by simpa [Pending, or_assoc] using hbusy⟩
  · exact .inl (by simp [hm, hp, hp.ne])

theorem at_rpLoopStep {n p e : Nat} (hm : MirrorPair c T p) (hp : P p 0 < P p 1)
    (d : RaidState) :
    At c T P (rpLoopStep n p e d).1 (rpLoopStep n p e d).2 := by
  unfold rpLoopStep
  dsimp only
  split_ifs with hbusy
  · exact .inr ⟨.pair p, _, rfl, .inr (.inr ⟨n, e, rfl⟩), by simp [hm],
      by simpa [Pending, or_assoc] using hbusy⟩
  · exact .inl (by simp [hm, hp, hp.ne])

theorem at_wGateStep {t : RAID_TYPE} {x : Nat} (ha : WriterArgs c T t x) (d : RaidState) :
    At c T P (wGateStep t x d).1 (wGateStep t x d).2 := by
  unfold wGateStep
  split_ifs with hr
  · exact .inr ⟨.repairing, _, rfl, ⟨t, x, rfl⟩, by simp [ha], hr⟩
  · exact .inl (by simp [ha])

theorem at_prGateStep (hT : IsParity T) (n : Nat) (first : Bool) (d : RaidState) :
    At c T P (prGateStep n first d).1 (prGateStep n first d).2 := by
  unfold prGateStep
  dsimp only
  generalize (if first = true then addRepairing 1 d else d) = d'
  split_ifs with hw
  · exact .inr ⟨.writecount, _, rfl, ⟨n, rfl⟩, by simp [hT], hw.1⟩
  · exact .inl (by simp [hT])

/-- The block loop of `loadclusterraid` stays in the loop until it releases
the disks and calls `writeraidmeta`. -/
theorem loadScanStep_cases (t : RAID_TYPE) (k b i : Nat) (after : PC) (d : RaidState) :
    (∃ b' i' r, (loadScanStep c t k b i after d).2 = .io r (.loadScan t k b' i' after)) ∨
      (∃ b' i', (loadScanStep c t k b i after d).2 = .loadScan t k b' i' after) ∨
      (loadScanStep c t k b i after d).2 = .relAll 0 (writeraidmeta after) := by
  unfold loadScanStep
  dsimp only
  split_ifs
  all_goals
    first
    | exact .inl ⟨_, _, _, rfl⟩
    | exact .inr (.inl ⟨_, _, rfl⟩)
    | exact .inr (.inr rfl)

/-- One step from a well-formed point reaches a point a thread can be at. -/
theorem at_next (hp : WF c T P p) (hd : Good T P d) (hP : PairsOrdered c T P) :
    At c T P (next (code c) p d).1 (next (code c) p d).2 := by
  cases p with
  | readraid x => exact .inl (wf_readEntry hd x)
  | writeraid x => exact .inl (wf_writeEntry hd x)
  | raidrepair n => exact .inl (wf_repairEntry hd n)
  | raidfail n =>
    refine .inl ?_
    simp only [next, code]
    unfold failStep
    split_ifs <;> simp [writeraidmeta]
  | raiddestroy =>
    refine .inl ?_
    simp only [next, code]
    unfold destroyStep
    split_ifs <;> simp [writeraidmeta]
  | acq l k => exact .inl hp.2.2.2
  | rel l k | wake ch k => exact .inl hp.2
  | io r k => exact .inl hp
  | acqAll i k =>
    refine .inl ?_
    simp only [next, code]
    split_ifs
    · exact hp
    · exact hp.2.2
  | relAll i k =>
    refine .inl ?_
    simp only [next, code]
    split_ifs
    · exact hp
    · exact hp.2
  | metaWrite i k =>
    refine .inl ?_
    simp only [next, code]
    split_ifs <;> simpa using hp
  | invScan e i k =>
    refine .inl ?_
    simp only [next, code]
    split_ifs
    · exact hp
    · exact hp
    · exact hp
  | loadScan t k b i after =>
    refine .inl ?_
    obtain ⟨hdisk, hcl, hafter⟩ := hp
    simp only [next, code]
    rcases loadScanStep_cases t k b i after d with ⟨b', i', r, h⟩ | ⟨b', i', h⟩ | h <;> rw [h]
    · exact ⟨hdisk, hcl, hafter⟩
    · exact ⟨hdisk, hcl, hafter⟩
    · simp [writeraidmeta, hdisk, hafter]
      exact hcl
  | rdLoop p => exact at_rdLoopStep hp d
  | rdDiskn p i | rdClear p i | rpValid n p =>
    have hm : MirrorPair c T p := hp
    exact .inl (by simp [next, code, writeraidmeta, hm])
  | wrLoop p => exact at_wrLoopStep hp (hP p hp) d
  | wrTest p i =>
    have hm : MirrorPair c T p := hp
    have hp' : P p 0 < P p 1 := hP p hm
    refine .inl ?_
    simp only [next, code]
    unfold wrTestStep
    dsimp only
    split_ifs <;> simp [hm, hp'.ne]
  | wrClear p k =>
    obtain ⟨hk, htag, hwf⟩ := hp
    exact .inl (by simp [next, code, hk, htag, hwf])
  | rpLoop n p e => exact at_rpLoopStep hp (hP p hp) d
  | rpCopy n p e b =>
    have hm : MirrorPair c T p := hp
    have hp' : P p 0 < P p 1 := hP p hm
    refine .inl ?_
    simp only [next, code]
    unfold rpCopyNext
    split_ifs <;> simp [hm, hp'.ne]
  | wGate t x => exact at_wGateStep hp d
  | wLoaded t x =>
    have ha : WriterArgs c T t x := hp
    refine .inl ?_
    simp only [next, code]
    rw [wLoadedNext_eq ha hd]
    split_ifs <;> simp [ha]
  | wPath t x =>
    have ha : WriterArgs c T t x := hp
    have hne := datadisk_ne_paritydisk ha
    refine .inl ?_
    simp only [next, code]
    unfold wPathNext
    dsimp only
    split_ifs <;> simp [hne, Ne.symm hne, ha.isParity]
  | wExit =>
    refine .inl ?_
    simp only [next, code]
    unfold wExitStep
    dsimp only
    split_ifs <;> simp
  | prGate n first => exact at_prGateStep hp n first d
  | prBlock n b =>
    have hT : IsParity T := hp
    refine .inl ?_
    simp only [next, code]
    unfold prBlockStep
    split_ifs with hb
    · exact ⟨hT, hb⟩
    · simp [hT]
  | prCluster n b => exact .inl hp
  | prLoaded n b =>
    refine .inl ?_
    simp only [next, code]
    rw [prLoadedNext_eq hp.2]
    split_ifs <;> simp [hp.1]
  | prScan n b i =>
    have hT : IsParity T := hp
    refine .inl ?_
    simp only [next, code]
    unfold prScanNext
    split_ifs <;> simp [hT]
  | prExit =>
    refine .inl ?_
    simp only [next, code]
    unfold prExitStep
    dsimp only
    split_ifs <;> simp [writeraidmeta]
  | done | fault => exact .inl trivial
  | slp | init | setraidtype => exact hp.elim

theorem good_next (hp : WF c T P p) (hd : Good T P d) : Good T P (next (code c) p d).1 := by
  obtain ⟨hT, hpairs⟩ := hd
  cases p
  case raidfail n =>
    simp only [next, code]
    unfold failStep
    split_ifs <;> simp [Good, hT, hpairs]
  case raiddestroy =>
    simp only [next, code]
    unfold destroyStep
    split_ifs <;> simp [Good, hT, hpairs]
  case loadScan t k b i after =>
    simp only [next, code]
    unfold loadScanStep
    dsimp only
    split_ifs <;> simp [Good, hT, hpairs]
  case rdLoop p =>
    simp only [next, code]
    unfold rdLoopStep
    dsimp only
    split_ifs <;> (try split) <;> simp [Good, hT, hpairs]
  case wrLoop p =>
    simp only [next, code]
    unfold wrLoopStep
    dsimp only
    split_ifs <;> simp [Good, hT, hpairs]
  case rpLoop n p e =>
    simp only [next, code]
    unfold rpLoopStep
    dsimp only
    split_ifs <;> simp [Good, hT, hpairs]
  case wGate t x =>
    simp only [next, code]
    unfold wGateStep
    split_ifs <;> simp [Good, hT, hpairs]
  case wExit =>
    simp only [next, code]
    unfold wExitStep
    dsimp only
    split_ifs <;> simp [Good, hT, hpairs]
  case prGate n first =>
    simp only [next, code]
    unfold prGateStep
    dsimp only
    split_ifs <;> simp [Good, hT, hpairs]
  case prBlock n b =>
    simp only [next, code]
    unfold prBlockStep
    split_ifs <;> simp [Good, hT, hpairs]
  case prExit =>
    simp only [next, code]
    unfold prExitStep
    dsimp only
    split_ifs <;> simp [Good, hT, hpairs]
  case rdClear p i | wrClear p k | rpValid n p => simp [next, code, Good, hT, hpairs]
  case acqAll i k | relAll i k =>
    simp only [next, code]
    split_ifs <;> exact ⟨hT, hpairs⟩
  case setraidtype => exact hp.elim
  all_goals exact ⟨hT, hpairs⟩

end WellFormed

section Order

variable {c T P} {d : RaidState} {p q : PC} {l : RaidState → Lock} {m : Lock}

/-- A thread at an acquire holds only locks of lower rank than the one it asks
for, except the parity repairer, which asks for `clusterlock` while it holds
every disk lock. -/
theorem rank_lt_of_acquire (hp : WF c T P p) (hd : Good T P d) (hc : code c p = .acquire l q)
    (hm : held c P p m) : m.rank < (l d).rank ∨ ∃ n b, p = .prCluster n b := by
  cases p
  case acq l' k =>
    simp only [code, Instr.acquire.injEq] at hc
    obtain ⟨rfl, rfl⟩ := hc
    obtain ⟨-, hord, -, -⟩ := hp
    left
    show m.rank < (LockRef.get d l').rank
    rw [LockRef.get_eq_res hd]
    exact hord m hm.1 hm.2
  case acqAll i k =>
    simp only [code] at hc
    split_ifs at hc with hi
    simp only [Instr.acquire.injEq] at hc
    obtain ⟨rfl, rfl⟩ := hc
    obtain ⟨hk, -, -⟩ := hp
    obtain ⟨hkm, hn⟩ := hm
    left
    cases m with
    | disk j =>
      have hj := (hk j).mp hkm
      have hji : j < i := by
        by_contra h
        exact hn ⟨j, by omega, hj, rfl⟩
      simp only [Lock.rank_disk]
      omega
    | cluster | repair | mutex _ =>
      simp only [Lock.rank_cluster, Lock.rank_repair, Lock.rank_mutex, Lock.rank_disk]
      omega
  case prCluster n b => exact .inr ⟨n, b, rfl⟩
  case relAll i k =>
    simp only [code] at hc
    split_ifs at hc
  all_goals simp [code] at hc

/-- A thread that holds `clusterlock` and asks for another lock is a parity
writer inside `writecount`: it is loading a cluster or writing the metadata. -/
theorem tag_of_acquire_cluster (hp : WF c T P p) (hc : code c p = .acquire l q)
    (hm : held c P p .cluster) : p.tag = .wInside := by
  cases p
  case acq l' k =>
    obtain ⟨-, -, hcl, -⟩ := hp
    exact absurd (hcl hm.1) (Ne.symm hm.2)
  case acqAll i k => exact hp.2.1 hm.1
  case prCluster n b => simp at hm
  case relAll i k =>
    simp only [code] at hc
    split_ifs at hc
  all_goals simp [code] at hc

end Order

end Xv6Raid.LockLevel
