import Xv6Raid.Protocol.Deadlock
import Xv6Raid.Refinement.MirrorView

/-!
The lock-level model of the RAID layer with the blocks its transfers move
(kernel/raid.c, virtio_disk.c). A `read_block` or `write_block` is an `io` step
of the lock level, which names the disk only; here the step also moves the
block between the disks and the `data` buffer of the call that makes it. The
block number comes from the call: `pblkn` of the mirrored levels for
`readdiskpair` and `writediskpair`, the loop counter of the mirror repair's
copy, and the last block for `writeraidmeta`. The transfers of the striped and
parity levels are not decorated.
-/

namespace Xv6Raid.LockLevel

open LockProgram Threads

variable (c : Config)

/-- The threads of the lock level with the data they move: the call each thread
makes with its arguments (its first program point), the blocks of the disks by
driver number, and each call's `data` buffer. The `disks` of the lock-level
data are not read. -/
structure DataSys (τ : Type*) where
  sys : System τ
  call : τ → PC
  disks : Nat → Nat → Block
  buf : τ → Block

/-- `pblkn` of `raid1read` and `raid1write` (`vblkn % diskblockn()`), and of
`raid0_1read` and `raid0_1write` (`vblkn / (DISKS / 2)`). -/
def callBlock (t : RAID_TYPE) : PC → Nat
  | .readraid x | .writeraid x => vblock c t x.toNat
  | _ => 0

/-- Block `b` of disk `n` set to `v`. -/
def putBlock (D : Nat → Nat → Block) (n b : Nat) (v : Block) : Nat → Nat → Block :=
  Function.update D n (Function.update (D n) b v)

/-- What the transfer at point `p` of a thread making `call` does, on the data
`d`, to the disks `D` and to its buffer `v`. -/
def transfer (call p : PC) (d : RaidState) (D : Nat → Nat → Block) (v : Block) :
    (Nat → Nat → Block) × Block :=
  match p with
  -- `read_block(diskn, pblkn, data)` of `readdiskpair`
  | .io (.num n) (.rel (.pairDisk _ _) _) => (D, D n (callBlock c d.raidmeta.type call))
  -- `write_block(diskpair->disk[i]->diskn, pblkn, data)` of `writediskpair`
  | .io (.pairDiskn q i) _ =>
    (putBlock D (DiskRef.get d (.pairDiskn q i)) (callBlock c d.raidmeta.type call) v, v)
  -- `read_block(pair->diskn, i, data)` and `write_block(raidmeta.diskinfo[diskn].diskn, i, data)`
  -- of the mirror repair's copy loop at block `i = b`
  | .io (.diskn e) (.io (.diskn _) (.rpCopy _ _ _ (b + 1))) => (D, D (DiskRef.get d (.diskn e)) b)
  | .io (.diskn n) (.rpCopy _ _ _ (b + 1)) => (putBlock D (DiskRef.get d (.diskn n)) b v, v)
  -- `write_block(i, lastblockondisk, data)` of `writeraidmeta`, the image of the structure
  | .io (.num i) (.metaWrite _ _) => (putBlock D i diskblockn (c.image d.raidmeta), v)
  | _ => (D, v)

variable {τ : Type*} [DecidableEq τ]

/-- One step of thread `t`: the step of the lock level, with the transfer of
the point it leaves. -/
def DataSys.step (ds : DataSys τ) (t : τ) : DataSys τ :=
  let moved := if ds.sys.asleep t = none
    then transfer c (ds.call t) (ds.sys.pc t) ds.sys.data ds.disks (ds.buf t)
    else (ds.disks, ds.buf t)
  { sys := LockProgram.step (code c) ds.sys t, call := ds.call, disks := moved.1,
    buf := Function.update ds.buf t moved.2 }

/-- Threads about to make the calls `calls` with the buffers `buf₀` on the data
`d` and its disks, as `Calls` starts the lock level. -/
def DStart (d : RaidState) (calls : τ → PC) (buf₀ : τ → Block) (ds : DataSys τ) : Prop :=
  Calls d ds.sys ∧ ds.sys.pc = calls ∧ ds.call = calls ∧ ds.disks = d.disks ∧ ds.buf = buf₀

section Transfer

variable {c} {call p : PC} {d : RaidState} {D : Nat → Nat → Block} {v : Block}

@[simp] theorem putBlock_apply (D : Nat → Nat → Block) (n b : Nat) (v : Block) (m e : Nat) :
    putBlock D n b v m e = if m = n ∧ e = b then v else D m e := by
  by_cases hm : m = n
  · subst hm
    by_cases he : e = b <;> simp [putBlock, he]
  · simp [putBlock, hm]

/-- A failure clears a `valid` flag only. -/
theorem valid_of_setValid {d : RaidState} {e e' : Nat}
    (h : ((setValid e false d).raidmeta.diskinfo e').valid = true) : (d.raidmeta.diskinfo e').valid = true := by
  by_cases he : e' = e
  · subst he
    simp [setValid, RaidState.setDiskinfo] at h
  · simpa [setValid, RaidState.setDiskinfo, Function.update_of_ne he] using h

/-- Only the block set differs. -/
theorem eq_of_putBlock_ne {D : Nat → Nat → Block} {n b m e : Nat} {v : Block}
    (h : putBlock D n b v m e ≠ D m e) : m = n ∧ e = b := by
  by_contra hne
  rw [putBlock_apply, if_neg hne] at h
  exact h rfl

/-- Only a transfer point moves a block. -/
theorem transfer_of_ne_io (h : ∀ r k, p ≠ .io r k) : transfer c call p d D v = (D, v) := by
  unfold transfer
  split
  all_goals first
    | rfl
    | exact absurd rfl (h _ _)

/-- No transfer changes the buffer of a call that does not read into it. -/
theorem transfer_snd (h : ∀ n k, p ≠ .io (.num n) k) (hr : ∀ e k, p ≠ .io (.diskn e) k) :
    (transfer c call p d D v).2 = v := by
  unfold transfer
  split
  all_goals first
    | rfl
    | exact absurd rfl (h _ _)
    | exact absurd rfl (hr _ _)

end Transfer

section Runs

variable {c} {d : RaidState} {calls : τ → PC} {buf₀ : τ → Block} {ds : DataSys τ}

@[simp] theorem DataSys.step_sys (ds : DataSys τ) (t : τ) :
    (DataSys.step c ds t).sys = LockProgram.step (code c) ds.sys t := rfl

@[simp] theorem DataSys.step_call (ds : DataSys τ) (t : τ) :
    (DataSys.step c ds t).call = ds.call := rfl

/-- A thread that does not move moves no block. -/
theorem DataSys.step_eq_of_step (t : τ) (h : LockProgram.step (code c) ds.sys t = ds.sys) :
    DataSys.step c ds t = ds := by
  have hbuf : ∀ b : (Nat → Nat → Block) × Block, b = (ds.disks, ds.buf t) →
      ({ sys := ds.sys, call := ds.call, disks := b.1, buf := Function.update ds.buf t b.2 } :
        DataSys τ) = ds := by
    rintro b rfl
    simp
  unfold DataSys.step
  rw [h]
  apply hbuf
  split_ifs with hs
  · apply transfer_of_ne_io
    rintro r k hpc
    -- an `io` point always moves an awake thread
    have hk : (LockProgram.step (code c) ds.sys t).pc t = k := by
      simp [LockProgram.step, hs, hpc, code]
    rw [h, hpc] at hk
    have hsz := congrArg sizeOf hk
    simp at hsz
  · rfl

/-- A thread that moves goes to the point the lock level gives it, and moves
the block of the point it leaves. -/
theorem DataSys.step_of_moves {t : τ}
    (hm : Moves (code c) ds.sys t (LockProgram.step (code c) ds.sys t)) :
    (DataSys.step c ds t).sys.data = (next (code c) (ds.sys.pc t) ds.sys.data).1 ∧
      (DataSys.step c ds t).sys.pc =
        Function.update ds.sys.pc t (next (code c) (ds.sys.pc t) ds.sys.data).2 ∧
      (DataSys.step c ds t).disks =
        (transfer c (ds.call t) (ds.sys.pc t) ds.sys.data ds.disks (ds.buf t)).1 ∧
      (DataSys.step c ds t).buf = Function.update ds.buf t
        (transfer c (ds.call t) (ds.sys.pc t) ds.sys.data ds.disks (ds.buf t)).2 := by
  obtain ⟨hd, hp⟩ := hm.next_eq
  refine ⟨hd, hp, ?_, ?_⟩ <;> simp only [DataSys.step, hm.awake, if_true]

/-- The lock level of a run with data is a run of the lock level. -/
theorem DataSys.reachable_sys (h : Reachable (DStart d calls buf₀) (DataSys.step c) ds) :
    Reachable (Calls d) (LockProgram.step (code c)) ds.sys ∧ ds.call = calls := by
  induction h with
  | init hs => exact ⟨.init hs.1, hs.2.2.1⟩
  | step t _ ih => exact ⟨ih.1.step t, ih.2⟩

end Runs

section Moves

variable {τ : Type*} [DecidableEq τ] {ds : DataSys τ}

/-- Thread `t` moved to `p'`, with the data `d'`, the disks `D'` and the buffer `v'`. -/
def DataSys.move (ds : DataSys τ) (t : τ) (d' : RaidState) (p' : PC) (D' : Nat → Nat → Block)
    (v' : Block) : DataSys τ :=
  { ds with
    sys := { ds.sys with data := d', pc := Function.update ds.sys.pc t p' }
    disks := D'
    buf := Function.update ds.buf t v' }

variable {t : τ} {d' : RaidState} {p' : PC} {D' : Nat → Nat → Block} {v' : Block}

@[simp] theorem DataSys.move_data : (ds.move t d' p' D' v').sys.data = d' := rfl
@[simp] theorem DataSys.move_call : (ds.move t d' p' D' v').call = ds.call := rfl
@[simp] theorem DataSys.move_disks : (ds.move t d' p' D' v').disks = D' := rfl
@[simp] theorem DataSys.move_pc : (ds.move t d' p' D' v').sys.pc = Function.update ds.sys.pc t p' :=
  rfl
@[simp] theorem DataSys.move_buf : (ds.move t d' p' D' v').buf = Function.update ds.buf t v' := rfl

/-- Thread `t` moved as the lock level moves it, with the transfer of the point
it leaves. -/
def DataSys.moved (ds : DataSys τ) (t : τ) : DataSys τ :=
  ds.move t (next (code c) (ds.sys.pc t) ds.sys.data).1 (next (code c) (ds.sys.pc t) ds.sys.data).2
    (transfer c (ds.call t) (ds.sys.pc t) ds.sys.data ds.disks (ds.buf t)).1
    (transfer c (ds.call t) (ds.sys.pc t) ds.sys.data ds.disks (ds.buf t)).2

end Moves

end Xv6Raid.LockLevel
