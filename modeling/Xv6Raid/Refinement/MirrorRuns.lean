import Xv6Raid.Refinement.MirrorLinear

/-!
Every run of reads, writes and failures on a mirrored array implements the
atomic memory of `Lib/Atomic` (kernel/raid.c, raid1.c, raid0_1.c). Each step of
a thread, at each point of its call, is matched by a step of the memory by the
same thread: the effects of `Refinement/MirrorLinear` where a call takes
effect, gives up or loses blocks, and a stutter at every other point. What
these effects read of a state, the exclusion of the pair flags and the places
of the readers, holds along every run by the invariants of the lock level, and
the first state of a run implements the memory that holds what a read of the
array returns.
-/

namespace Xv6Raid.LockLevel

open LockProgram Threads

section Moved

variable {c : Config} {T : RAID_TYPE} {P : Nat → Fin 2 → Nat} {τ : Type*} [DecidableEq τ]
  {ds : DataSys τ} {a : Atomic.State τ Int Block} {t : τ}

theorem Refines.of_moved (hm : Moves (code c) ds.sys t (LockProgram.step (code c) ds.sys t))
    (h : Refines c T P (ds.moved c t) a) : Refines c T P (DataSys.step c ds t) a := by
  obtain ⟨hd, hp, hD, hb⟩ := DataSys.step_of_moves hm
  exact h.of_fields hd hp rfl hD hb

end Moved

section Steps

variable {c : Config} {T : RAID_TYPE} {P : Nat → Fin 2 → Nat} {τ : Type*} [DecidableEq τ]
  {ds : DataSys τ} {a : Atomic.State τ Int Block} {t : τ} {ops : τ → Atomic.Op Int Block}
  {x : Int} {d' : RaidState} {p' : PC}

theorem Refines.reader_quiet (hR : Refines c T P ds a) (hcall : ds.call t = .readraid x) {v' : Block}
    (hvalid : ∀ e, (d'.raidmeta.diskinfo e).valid = (ds.sys.data.raidmeta.diskinfo e).valid)
    (hget : ∀ r, DiskRef.get d' r = DiskRef.get ds.sys.data r)
    (hwait : p'.waiting = (ds.sys.pc t).waiting)
    (hret : retOf c T (ds.move t d' p' ds.disks v') t = retOf c T ds t) :
    ∃ a', Atomic.Step ops a t a' ∧ Refines c T P (ds.move t d' p' ds.disks v') a' := by
  refine ⟨a, .stutter a t, hR.move_quiet hvalid hget hwait hret fun y hy => ?_⟩
  rw [hcall] at hy
  cases hy

theorem Refines.writer_quiet (hR : Refines c T P ds a) (hcall : ds.call t = .writeraid x)
    (hvalid : ∀ e, (d'.raidmeta.diskinfo e).valid = (ds.sys.data.raidmeta.diskinfo e).valid)
    (hget : ∀ r, DiskRef.get d' r = DiskRef.get ds.sys.data r)
    (hwait : p'.waiting = (ds.sys.pc t).waiting)
    (htag : p'.tag = .pWriter (vpair c T x.toNat) ↔ (ds.sys.pc t).tag = .pWriter (vpair c T x.toNat))
    (hst : p'.stage = (ds.sys.pc t).stage) :
    ∃ a', Atomic.Step ops a t a' ∧ Refines c T P (ds.move t d' p' ds.disks (ds.buf t)) a' := by
  have hnot : ∀ y, ds.call t ≠ .readraid y := fun y h => by rw [hcall] at h; cases h
  have hret : retOf c T (ds.move t d' p' ds.disks (ds.buf t)) t = retOf c T ds t := by
    rw [retOf_of_not_reader (ds.move t d' p' ds.disks (ds.buf t)) hnot, retOf_of_not_reader ds hnot]
    simp
  refine ⟨a, .stutter a t, hR.move_quiet hvalid hget hwait hret fun y hy => ?_⟩
  obtain rfl : x = y := PC.writeraid.inj (hcall.symm.trans hy)
  exact ⟨htag, fun _ => ⟨rfl, hst⟩⟩

/-- A step of a thread that neither reads nor writes, clears `valid` flags only
and moves no block of the array is a loss of the blocks whose pairs it kills. -/
theorem Refines.lose_step (hR : Refines c T P ds a) (hO : Obs c T P ds)
    (hcall : (ds.call t).onMemory = false) {D' : Nat → Nat → Block}
    (hvalid : ∀ e, (d'.raidmeta.diskinfo e).valid = true → (ds.sys.data.raidmeta.diskinfo e).valid = true)
    (hget : ∀ r, DiskRef.get d' r = DiskRef.get ds.sys.data r)
    (hD : ∀ x, InRange c T x → ∀ n, D' n (vblock c T x.toNat) = ds.disks n (vblock c T x.toNat)) :
    ∃ a', Atomic.Step ops a t a' ∧ Refines c T P (ds.move t d' p' D' (ds.buf t)) a' := by
  refine ⟨_, .lose fun k hk => ?_, hR.move_lose hO hcall hvalid hget hD⟩
  rw [hR.live]
  exact liveOf_le hvalid k hk

/-- Every step of a reader of block `x` is a step of the memory: it takes effect
when it claims a slot, gives up out of range or on a dead pair, and stutters
everywhere else. -/
theorem Refines.reader_step (hR : Refines c T P ds a) (hO : Obs c T P ds) (hl : MirrorLevel c T)
    (hL : PairLayout c T P) (hcall : ds.call t = .readraid x) (hop : ops t = .read x)
    (hat : ReaderAt c T P x (vpair c T x.toNat) (ds.sys.pc t)) :
    ∃ a', Atomic.Step ops a t a' ∧ Refines c T P (ds.moved c t) a' := by
  have hf := hO.frame
  have hpend : a.pending t = (ds.sys.pc t).waiting := by
    rw [hR.pending]
    simp [pendingOf, hcall, PC.onMemory]
  unfold DataSys.moved
  generalize hp : ds.sys.pc t = p at hat hpend ⊢
  cases hat
  case call =>
    simp only [next, code, readEntry_mirror hl hf]
    split_ifs with hx
    · exact hR.reader_quiet hcall (fun _ => rfl) (fun _ => rfl) (by rw [hp]; rfl)
        (by simp [retOf, hp, hcall, PC.slotDisk, transfer])
    · -- out of range: `readraid` returns `-1`
      have hdead : a.live (Atomic.Op.read (V := Block) x).key = false := by
        rw [hR.live]
        exact liveOf_of_not_inRange hx
      exact ⟨_, .giveUp_of hop hpend hdead, hR.move_giveUp (by rw [hp]; rfl) rfl (by rw [hp]; rfl) rfl
        fun y hy => by rw [hcall] at hy; cases hy⟩
  case loop hx =>
    simp only [next, code]
    unfold rdLoopStep
    dsimp only
    split_ifs with hdead hw
    · -- both disks invalid: `readdiskpair` returns `-1`
      rw [hf.good.2] at hdead
      have hlost : a.live (Atomic.Op.read (V := Block) x).key = false := by
        rw [hR.live]
        simp only [Bool.and_eq_true, Bool.not_eq_true'] at hdead
        exact liveOf_of_dead hl hL (Fin.forall_fin_two.mpr hdead)
      exact ⟨_, .giveUp_of hop hpend hlost, hR.move_giveUp (by rw [hp]; rfl) rfl (by rw [hp]; rfl) rfl
        fun y hy => by rw [hcall] at hy; cases hy⟩
    · exact hR.reader_quiet hcall (fun _ => rfl) (fun _ => rfl) (by rw [hp]; rfl)
        (by simp [retOf, hp, hcall, PC.slotDisk, transfer])
    · rcases hs : readslot (ds.sys.data.raidmeta.data.diskpair (vpair c T x.toNat)) ds.sys.data.raidmeta
        with _ | i
      · exact hR.reader_quiet hcall (fun _ => rfl) (fun _ => rfl) (by rw [hp]; rfl)
          (by simp [retOf, hp, hcall, PC.slotDisk, transfer])
      · -- the read takes effect when it claims the slot of a valid disk
        have hv := valid_of_readslot hs
        rw [hf.good.2] at hv
        have hlive : a.live (Atomic.Op.read (V := Block) x).key = true := by
          rw [hR.live]
          exact liveOf_of_valid hl hL hx hv
        exact ⟨_, .perform_of hop hpend hlive,
          hR.move_claim hO hl hL hcall hx (Bool.of_not_eq_true hw) hv⟩
  case read i hx hlt =>
    -- `read_block` copies the slot's block into the buffer, which is the result
    have hT := hf.good.1
    exact hR.reader_quiet hcall (fun _ => rfl) (fun _ => rfl) (by rw [hp]; rfl)
      (by simp [retOf, hp, hcall, PC.slotDisk, next, code, transfer, callBlock, hT])
  case clear =>
    exact hR.reader_quiet hcall (fun _ => rfl) DiskRef.get_setReading (by rw [hp]; rfl)
      (by simp [retOf, hp, hcall, PC.slotDisk, next, code, transfer])
  all_goals
    -- the other points keep the data and the reader's result
    exact hR.reader_quiet hcall (fun _ => rfl) (fun _ => rfl) (by rw [hp]; rfl)
      (by simp [retOf, hp, hcall, PC.slotDisk, next, code, transfer])

/-- Every step of a writer of block `x` is a step of the memory: it takes effect
when it sets `writing` of its pair, gives up out of range or on a dead pair, and
stutters everywhere else, also where it writes or passes a disk of its pair. -/
theorem Refines.writer_step (hR : Refines c T P ds a) (hO : Obs c T P ds) (hl : MirrorLevel c T)
    (hL : PairLayout c T P) (hord : PairsOrdered c T P) (hcall : ds.call t = .writeraid x)
    (hop : ops t = .write x (ds.buf t)) (hat : WriterAt c T P x (vpair c T x.toNat) (ds.sys.pc t)) :
    ∃ a', Atomic.Step ops a t a' ∧ Refines c T P (ds.moved c t) a' := by
  have hf := hO.frame
  have hpend : a.pending t = (ds.sys.pc t).waiting := by
    rw [hR.pending]
    simp [pendingOf, hcall, PC.onMemory]
  unfold DataSys.moved
  generalize hp : ds.sys.pc t = p at hat hpend ⊢
  cases hat
  case call =>
    simp only [next, code, writeEntry_mirror hl hf]
    split_ifs with hx
    · exact hR.writer_quiet hcall (fun _ => rfl) (fun _ => rfl) (by rw [hp]; rfl) (by rw [hp]; simp)
        (by rw [hp]; rfl)
    · -- out of range: `writeraid` returns `-1`
      have hdead : a.live (Atomic.Op.write x (ds.buf t)).key = false := by
        rw [hR.live]
        exact liveOf_of_not_inRange hx
      exact ⟨_, .giveUp_of hop hpend hdead,
        hR.move_giveUp (by rw [hp]; rfl) rfl (by rw [hp]; rfl) rfl fun _ _ => ⟨by rw [hp]; rfl, rfl⟩⟩
  case loop hx =>
    simp only [next, code]
    unfold wrLoopStep
    dsimp only
    split_ifs with hdead hbusy
    · -- both disks invalid: `writediskpair` returns `-1`
      rw [hf.good.2] at hdead
      have hlost : a.live (Atomic.Op.write x (ds.buf t)).key = false := by
        rw [hR.live]
        simp only [Bool.and_eq_true, Bool.not_eq_true'] at hdead
        exact liveOf_of_dead hl hL (Fin.forall_fin_two.mpr hdead)
      exact ⟨_, .giveUp_of hop hpend hlost,
        hR.move_giveUp (by rw [hp]; rfl) rfl (by rw [hp]; rfl) rfl fun _ _ => ⟨by rw [hp]; rfl, rfl⟩⟩
    · exact hR.writer_quiet hcall (fun _ => rfl) (fun _ => rfl) (by rw [hp]; rfl) (by rw [hp]; simp)
        (by rw [hp]; rfl)
    · -- the write takes effect when it sets `writing` of a live pair
      rw [hf.good.2] at hdead
      simp only [Bool.or_eq_true, not_or, Bool.not_eq_true] at hbusy
      have hlive : a.live (Atomic.Op.write x (ds.buf t)).key = true := by
        rw [hR.live]
        simp only [Bool.and_eq_true, Bool.not_eq_true', not_and, Bool.not_eq_false] at hdead
        by_cases hv : (ds.sys.data.raidmeta.diskinfo (P (vpair c T x.toNat) 0)).valid = true
        · exact liveOf_of_valid hl hL hx hv
        · exact liveOf_of_valid hl hL hx (hdead (Bool.of_not_eq_true hv))
      exact ⟨_, .perform_of hop hpend hlive, hR.move_enter hO hl hcall hx hbusy.1.1⟩
  case test i hx =>
    simp only [next, code]
    unfold wrTestStep
    dsimp only
    rw [hf.good.2]
    rcases Fin.exists_fin_two.mp ⟨i, rfl⟩ with rfl | rfl
    · rw [if_pos (rfl : (0 : Fin 2) = 0)]
      split_ifs with hv
      · exact hR.writer_quiet hcall (fun _ => rfl) (fun _ => rfl) (by rw [hp]; rfl) (by rw [hp]; simp)
          (by rw [hp]; rfl)
      · -- an invalid disk is passed without a write
        exact ⟨a, .stutter a t, hR.move_advance hO hl hL hord hcall hx (by rw [hp]; rfl) (by rw [hp]; rfl)
          (by rw [hp]; rfl) rfl rfl rfl (fun _ _ h => absurd rfl h) fun h => absurd h hv⟩
    · rw [if_neg (show (1 : Fin 2) ≠ 0 by decide)]
      split_ifs with hv
      · exact hR.writer_quiet hcall (fun _ => rfl) (fun _ => rfl) (by rw [hp]; rfl) (by rw [hp]; simp)
          (by rw [hp]; rfl)
      · exact ⟨a, .stutter a t, hR.move_advance hO hl hL hord hcall hx (by rw [hp]; rfl) (by rw [hp]; rfl)
          (by rw [hp]; rfl) rfl rfl rfl (fun _ _ h => absurd rfl h) fun h => absurd h hv⟩
  case write0 hx hlt =>
    -- `write_block` stores the buffer on the first disk
    simp only [next, code, hcall, transfer_write hf hlt]
    exact ⟨a, .stutter a t, hR.move_advance hO hl hL hord hcall hx (by rw [hp]; rfl) (by rw [hp]; rfl)
      (by rw [hp]; rfl) rfl rfl rfl (fun _ _ => eq_of_putBlock_ne) fun _ => by simp⟩
  case write1 hx hlt =>
    simp only [next, code, hcall, transfer_write hf hlt]
    exact ⟨a, .stutter a t, hR.move_advance hO hl hL hord hcall hx (by rw [hp]; rfl) (by rw [hp]; rfl)
      (by rw [hp]; rfl) rfl rfl rfl (fun _ _ => eq_of_putBlock_ne) fun _ => by simp⟩
  case clear hx =>
    exact ⟨a, .stutter a t, hR.move_clear hO hl hcall hx hp⟩
  all_goals
    -- the other points keep the data and the writer's place in its pair
    exact hR.writer_quiet hcall (fun _ => rfl) (fun _ => rfl) (by rw [hp]; rfl)
      (by rw [hp]; simp [next, code, Chan.wakeTag]) (by rw [hp]; rfl)

/-- Every step of a failure is a loss of the blocks whose pairs it kills: it
clears a `valid` flag at its call, and `writeraidmeta` writes the block after
the data blocks. -/
theorem Refines.failer_step (hR : Refines c T P ds a) (hO : Obs c T P ds) {n : Int}
    (hcall : ds.call t = .raidfail n) (hat : FailerAt n (ds.sys.pc t)) :
    ∃ a', Atomic.Step ops a t a' ∧ Refines c T P (ds.moved c t) a' := by
  have hmem : (ds.call t).onMemory = false := by
    rw [hcall]
    rfl
  unfold DataSys.moved
  generalize hp : ds.sys.pc t = p at hat ⊢
  cases hat
  case call =>
    simp only [next, code, failStep_eq hO.frame]
    split_ifs
    · exact hR.lose_step hO hmem (fun _ h => h) (fun _ => rfl) fun _ _ _ => rfl
    · exact hR.lose_step hO hmem (fun _ => valid_of_setValid) DiskRef.get_setValid fun _ _ _ => rfl
  case done => exact hR.lose_step hO hmem (fun _ h => h) (fun _ => rfl) fun _ _ _ => rfl
  case store h =>
    cases h
    case write i =>
      -- `writeraidmeta` stores the structure after the data blocks
      exact hR.lose_step hO hmem (fun _ h => h) (fun _ => rfl) fun x hx m => by
        simp [transfer, hx.vblock_lt.ne]
    case acqAll i | relAll i =>
      simp only [next, code]
      split_ifs <;> exact hR.lose_step hO hmem (fun _ h => h) (fun _ => rfl) fun _ _ _ => rfl
    case image i => exact hR.lose_step hO hmem (fun _ h => h) (fun _ => rfl) fun _ _ _ => rfl

end Steps

section Observe

variable {c : Config} {T : RAID_TYPE} {P : Nat → Fin 2 → Nat} {τ : Type*} [DecidableEq τ]
  {d : RaidState} {calls : τ → PC} {buf₀ : τ → Block} {ds : DataSys τ}

/-- A reader reads a disk only from the claim of its slot to its `read_block`,
and the disk is the slot's. -/
theorem ReaderAt.slot {x : Int} {p : PC} {n : Nat} (hf : Frame c T P d)
    (h : ReaderAt c T P x (vpair c T x.toNat) p) (hn : p.slotDisk d = some n) :
    ∃ i, n = P (vpair c T x.toNat) i + 1 ∧ p.tag = .pSlot (vpair c T x.toNat) i ∧ InRange c T x ∧
      P (vpair c T x.toNat) i < c.DISKS := by
  cases h <;> simp only [PC.slotDisk, reduceCtorEq, Option.some.injEq] at hn
  case claimed i hx hlt => exact ⟨i, by rw [← hn, hf.get_pairDiskn hlt], rfl, hx, hlt⟩
  case diskn i hx hlt => exact ⟨i, by rw [← hn, hf.get_pairDiskn hlt], rfl, hx, hlt⟩
  case acquire i hx hlt => exact ⟨i, hn.symm, rfl, hx, hlt⟩
  case read i hx hlt => exact ⟨i, hn.symm, rfl, hx, hlt⟩

/-- What the effects read of a state holds along every run: the readers in a
slot by their points, and the exclusion by the counts of the lock level. -/
theorem obs_of_reachable [Fintype τ] (hl : MirrorLevel c T) (hL : PairLayout c T P)
    (hup : SetUp c T P d) (hf : Frame c T P d) (hcalls : ∀ t, (calls t).mirrorCall)
    (h : Reachable (DStart d calls buf₀) (DataSys.step c) ds) : Obs c T P ds := by
  have hI := dInv_of_reachable hl hL hf hcalls h
  have hs := (DataSys.reachable_sys h).1
  have hc := (waitInv_of_reachable hup hs).counts
  refine ⟨hI.frame, fun u x n hu hn => ?_, fun q u hq hw hu => ?_,
    fun q u v hq hu hv => one_writer_of_pair hup hs hq hu hv, fun q i u v hq hu => no_writer_of_slot hup hs hq hu v⟩
  · have hat := hI.threads u
    rw [hu] at hat
    exact ReaderAt.slot hI.frame hat hn
  · -- no writer is counted while `writing` is clear
    have hpos := count_pos (P := fun p : PC => p.tag = .pWriter q) hu
    rw [hc.writing q hq, hw] at hpos
    contradiction

end Observe

section Runs

variable {c : Config} {T : RAID_TYPE} {P : Nat → Fin 2 → Nat} {τ : Type*} [DecidableEq τ]
  {d : RaidState} {calls : τ → PC} {buf₀ : τ → Block} {ds : DataSys τ} {a : Atomic.State τ Int Block}

/-- Every step of every thread is a step of the memory by the same thread. -/
theorem Refines.step (hR : Refines c T P ds a) (hO : Obs c T P ds) (hI : DInv c T P buf₀ ds)
    (hl : MirrorLevel c T) (hL : PairLayout c T P) (hord : PairsOrdered c T P) (hcall : ds.call = calls)
    (t : τ) (hs : (calls t).served) :
    ∃ a', Atomic.Step (fun u => memOp (calls u) (buf₀ u)) a t a' ∧ Refines c T P (DataSys.step c ds t) a' := by
  rcases step_moves (code c) ds.sys t with hst | hm
  · rw [DataSys.step_eq_of_step t hst]
    exact ⟨a, .stutter a t, hR⟩
  subst hcall
  obtain ⟨a', hstep, h⟩ : ∃ a', Atomic.Step (fun u => memOp (ds.call u) (buf₀ u)) a t a' ∧
      Refines c T P (ds.moved c t) a' := by
    have hat := hI.threads t
    cases hc : ds.call t
    all_goals simp only [hc, ThreadAt] at hat
    case readraid x => exact hR.reader_step hO hl hL hc (by simp [hc, memOp]) hat
    case writeraid x => exact hR.writer_step hO hl hL hord hc (by simp [hc, memOp, hI.bufs t x hc]) hat
    case raidfail n => exact hR.failer_step hO hc hat
    case raidrepair n =>
      rw [hc] at hs
      exact hs.elim
  exact ⟨a', hstep, h.of_moved hm⟩

omit [DecidableEq τ] in
/-- The first state of a run implements the memory that holds what a read of
the array returns, with a pending call for each read and write. -/
theorem Refines.start (hinv : MirrorInv c T d) (hL : PairLayout c T P) (hl : MirrorLevel c T)
    (h : DStart d calls buf₀ ds) : Refines c T P ds (memStart c T d calls buf₀) := by
  obtain ⟨⟨⟨hd, -⟩, -⟩, hpc, hcall, hD, hbuf⟩ := h
  refine ⟨?_, ?_, ?_, fun x hx => ⟨fun w hw => ?_, fun i hv _ => ?_⟩⟩
  · funext x
    simp [memStart, liveOf, hd]
  · funext u
    simp only [memStart, pendingOf, hpc, hcall]
    cases calls u <;> rfl
  · funext u
    simp only [memStart, retOf, hpc, hcall, hbuf]
    cases calls u <;> rfl
  · -- no thread is inside a pair yet
    have htag := hw.2
    rw [hpc, ← hcall, hw.1] at htag
    simp at htag
  · -- a valid disk of the pair holds what a read returns
    have hxr : InRange c T x := by
      simp only [memStart, Bool.and_eq_true, decide_eq_true_eq] at hx
      exact hx.1
    obtain ⟨h₀, h₁⟩ := hL _ (hxr.mirrorPair hl)
    have hm : P (vpair c T x.toNat) i = pairFirst T (vpair c T x.toNat) ∨
        P (vpair c T x.toNat) i = pairSecond c T (vpair c T x.toNat) := by
      rcases Fin.exists_fin_two.mp ⟨i, rfl⟩ with rfl | rfl
      · exact .inl h₀
      · exact .inr h₁
    rw [hd] at hv
    rw [hD]
    exact (hinv.mirrorView_eq hxr.2 hm hv).symm

/-- Along every run of reads, writes and failures on an array in a state of a
sequential run of a mirrored level, the threads implement a state of the memory
reached by steps of the same threads. -/
theorem refines_of_reachable [Fintype τ] (hl : MirrorLevel c T) (hinv : MirrorInv c T d)
    (hread : d.raidmeta.read = some T) (hwrite : d.raidmeta.write = some T)
    (hcalls : ∀ t, (calls t).served) (hrun : Reachable (DStart d calls buf₀) (DataSys.step c) ds) :
    ∃ a, Atomic.Reachable (fun t => memOp (calls t) (buf₀ t)) (memStart c T d calls buf₀) a ∧
      Refines c T (fun q => (d.raidmeta.data.diskpair q).disk) ds a := by
  obtain ⟨hup, hL⟩ := setUp_of_mirrorInv hinv hl
  have hf : Frame c T _ d := ⟨hup.good, hinv.destroyed, hread, hwrite, hinv.wiring⟩
  refine Atomic.reachable_of_simulation (fun s (hs : DStart d calls buf₀ s) => Refines.start hinv hL hl hs)
    (fun s a hr hR t => ?_) hrun
  have hmc := fun t => PC.mirrorCall_of_served (hcalls t)
  exact hR.step (obs_of_reachable hl hL hup hf hmc hr) (dInv_of_reachable hl hL hf hmc hr) hl hL
    hup.ordered (DataSys.reachable_sys hr).2 t (hcalls t)

/-- Concurrent `readraid`, `writeraid` and `raidfail` calls on a mirrored array
that `setraidtype` has set up on the first boot are linearizable, also while
disks fail. Along every run the threads implement a state of the atomic memory
of virtual blocks reached by steps of the same threads from the memory that
holds what a read of the array returns: each read or write takes effect at one
step of its own thread, a read returns what the memory held then, and a call
gives up only on a block out of range or whose pair has no valid disk left. -/
theorem mirror_calls_linearize [Fintype τ] {s₀ : RaidState} {type : Int} {r : UInt64}
    (hfresh : Fresh c s₀) (htype : RAID_TYPE.ofInt type = some T) (hl : MirrorLevel c T)
    (hset : setraidtype c type s₀ = .ok (r, d)) (hcalls : ∀ t, (calls t).served)
    (hrun : Reachable (DStart d calls buf₀) (DataSys.step c) ds) :
    ∃ a, Atomic.Reachable (fun t => memOp (calls t) (buf₀ t)) (memStart c T d calls buf₀) a ∧
      Refines c T (fun q => (d.raidmeta.data.diskpair q).disk) ds a := by
  obtain ⟨-, hinv, -⟩ := mirrorInv_setraidtype hfresh htype hl hset
  rw [setraidtype_mirror htype hl fun i _ => hfresh.quiet.disklock i] at hset
  obtain ⟨-, rfl⟩ := Prod.mk.inj (Except.ok.inj hset)
  exact refines_of_reachable hl hinv rfl rfl hcalls hrun

/-- A write and a read of block 5 on the three-disk RAID1 array. -/
def writeThenRead : Fin 2 → PC
  | 0 => .writeraid 5
  | 1 => .readraid 5

/-- The threads before their first steps, on the data `d`. -/
def writeThenReadStart (d : RaidState) : DataSys (Fin 2) where
  sys := { data := d, owner := fun _ => none, pc := writeThenRead, asleep := fun _ => none }
  call := writeThenRead
  disks := d.disks
  buf _ := ⟨fun _ => 7⟩

theorem mirror_calls_linearize_writeThenRead :
    ∃ d, setraidtype threeDisks 1 (freshState 3) = .ok (0, d) ∧
      ∃ a, Atomic.Reachable (fun t => memOp (writeThenRead t) ⟨fun _ => 7⟩)
          (memStart threeDisks .RAID1 d writeThenRead fun _ => ⟨fun _ => 7⟩) a ∧
        Refines threeDisks .RAID1 (fun q => (d.raidmeta.data.diskpair q).disk)
          (DataSys.step threeDisks (DataSys.step threeDisks (writeThenReadStart d) 0) 1) a := by
  obtain ⟨d, hset⟩ : ∃ d, setraidtype threeDisks 1 (freshState 3) = .ok (0, d) :=
    ⟨_, setraidtype_mirror (show RAID_TYPE.ofInt 1 = some .RAID1 from rfl) (.inl rfl)
      fun i _ => (fresh_freshState threeDisks).quiet.disklock i⟩
  refine ⟨d, hset, ?_⟩
  have hstart : DStart d writeThenRead (fun _ => ⟨fun _ => 7⟩) (writeThenReadStart d) :=
    ⟨⟨⟨rfl, fun _ => rfl, fun _ => rfl, fun t => by fin_cases t <;> rfl⟩,
      fun t n => by fin_cases t <;> simp [writeThenReadStart, writeThenRead]⟩, rfl, rfl, rfl, rfl⟩
  exact mirror_calls_linearize (fresh_freshState threeDisks) rfl (.inl rfl) hset
    (fun t => by fin_cases t <;> trivial) (((Reachable.init hstart).step 0).step 1)

end Runs

end Xv6Raid.LockLevel
