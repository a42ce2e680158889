import Xv6Raid.Lib.Atomic
import Xv6Raid.Protocol.MirrorThreads
import Xv6Raid.Protocol.PairExclusion

/-!
Concurrent reads and writes of a mirrored array are linearizable, also while
disks fail (kernel/raid.c, raid1.c, raid0_1.c). Threads call `readraid`,
`writeraid` and `raidfail` on an array whose valid disks of each pair hold the
same data blocks (`MirrorInv`). The memory they implement is the atomic memory
of virtual blocks of `Lib/Atomic`, in which block `x` is lost once both disks
of its pair are invalid. A write takes effect when it sets `writing` of its
pair, a read when it claims a slot, and a call gives up when it finds both
disks of its pair invalid or its block out of range.

Between these points the flags of a pair keep its writer alone with it, so
that a reader in a slot reads a disk whose block no one changes, and every
valid disk of a pair holds the memory's block except the disks its writer has
still to reach. `Refines` relates the threads and their data to a state of the
memory: which calls are pending, what each call holds as its result, which
blocks are live, and how the disks agree with the memory; every step of a
thread is a step of the memory by the same thread.

A repair is not among the calls: it checks its partner disk before it takes
the pair's mutex (raid.c:476-479) and copies it whether or not it has failed
since.
-/

namespace Xv6Raid.LockLevel

open LockProgram Threads

variable (c : Config) (T : RAID_TYPE) (P : Nat → Fin 2 → Nat)

section Observe

/-- The call of a thread on the memory of virtual blocks: `readraid(x)` reads
block `x` and `writeraid(x)` writes the buffer `v` there; any other call makes
none. -/
def memOp (call : PC) (v : Block) : Atomic.Op Int Block :=
  match call with
  | .readraid x => .read x
  | .writeraid x => .write x v
  | _ => .read (-1)

def PC.onMemory : PC → Bool
  | .readraid _ | .writeraid _ => true
  | _ => false

/-- The points of a read or a write before it takes effect: its entry and the
wait loop of its pair. -/
def PC.waiting : PC → Bool
  | .readraid _ | .writeraid _ | .rdLoop _ | .wrLoop _ => true
  | .acq _ k | .slp _ _ k => k.waiting
  | _ => false

/-- The disk a reader reads, between the claim of its slot and its `read_block`. -/
def PC.slotDisk (d : RaidState) : PC → Option Nat
  | .rel _ (.rdDiskn q i) | .rdDiskn q i => some (DiskRef.get d (.pairDiskn q i))
  | .acq (.pairDisk _ _) (.io (.num n) _) | .io (.num n) (.rel (.pairDisk _ _) _) => some n
  | _ => none

variable {τ : Type*}

/-- Block `x` is in range and its pair has a valid disk. -/
def liveOf (ds : DataSys τ) (x : Int) : Bool :=
  decide (InRange c T x) && alive c T ds.sys.data (vpair c T x.toNat)

/-- The read or write of thread `t` has not taken effect. -/
def pendingOf (ds : DataSys τ) (t : τ) : Bool :=
  (ds.call t).onMemory && (ds.sys.pc t).waiting

/-- What thread `t` holds as the result of its call: the block a reader in a
slot is about to read, or its buffer. -/
def retOf (ds : DataSys τ) (t : τ) : Block :=
  match ds.call t, (ds.sys.pc t).slotDisk ds.sys.data with
  | .readraid x, some n => ds.disks n (vblock c T x.toNat)
  | _, _ => ds.buf t

/-- Value `v` of block `x` agrees with the array: a writer inside the pair that
writes `x` writes `v`, and a valid disk of the pair holds `v` at the block of
`x` unless such a writer has still to reach it. -/
def MemAgree (ds : DataSys τ) (x : Int) (v : Block) : Prop :=
  (∀ w, WriterIn c T ds w x → ds.buf w = v) ∧
  ∀ i : Fin 2, (ds.sys.data.raidmeta.diskinfo (P (vpair c T x.toNat) i)).valid = true →
    (∀ w, WriterIn c T ds w x → i.val < (ds.sys.pc w).stage) →
    ds.disks (P (vpair c T x.toNat) i + 1) (vblock c T x.toNat) = v

/-- The threads with their data implement the memory state `a`. -/
structure Refines (ds : DataSys τ) (a : Atomic.State τ Int Block) : Prop where
  live : a.live = liveOf c T ds
  pending : a.pending = pendingOf ds
  ret : a.ret = retOf c T ds
  mem : ∀ x, a.live x = true → MemAgree c T P ds x (a.mem x)

/-- The memory a run starts from: the blocks as a read of the array `d`
returns them, and a pending call for each read and write. -/
def memStart (d : RaidState) (calls : τ → PC) (buf₀ : τ → Block) : Atomic.State τ Int Block where
  mem x := mirrorView c T d x.toNat
  live x := decide (InRange c T x) && alive c T d (vpair c T x.toNat)
  pending t := (calls t).onMemory
  ret := buf₀

end Observe

section Transport

variable {c T P} {τ : Type*} [DecidableEq τ] {ds ds' : DataSys τ} {a : Atomic.State τ Int Block}

@[simp] theorem DiskRef.get_setReading {q : Nat} {i : Fin 2} {b : Bool} {d : RaidState} (r : DiskRef) :
    DiskRef.get (setReading q i b d) r = DiskRef.get d r := by
  cases r <;> simp only [DiskRef.get, setReading_disk] <;> rfl

@[simp] theorem DiskRef.get_setWriting {q : Nat} {b : Bool} {d : RaidState} (r : DiskRef) :
    DiskRef.get (setWriting q b d) r = DiskRef.get d r := by
  cases r <;> simp only [DiskRef.get, setWriting_disk] <;> rfl

@[simp] theorem DiskRef.get_setValid {e : Nat} {d : RaidState} (r : DiskRef) :
    DiskRef.get (setValid e false d) r = DiskRef.get d r := by
  cases r with
  | num => rfl
  | diskn j =>
    by_cases hj : j = e
    · subst hj
      simp [DiskRef.get, setValid]
    · simp [DiskRef.get, setValid, Function.update_of_ne hj]
  | pairDiskn q i =>
    by_cases hj : (d.raidmeta.data.diskpair q).disk i = e
    · simp [DiskRef.get, setValid, hj]
    · simp [DiskRef.get, setValid, Function.update_of_ne hj]

theorem PC.slotDisk_congr {d d' : RaidState} (h : ∀ r, DiskRef.get d' r = DiskRef.get d r) (p : PC) :
    p.slotDisk d' = p.slotDisk d := by
  unfold PC.slotDisk
  split <;> simp [h]

omit [DecidableEq τ] in
theorem retOf_congr (ds ds' : DataSys τ) {u : τ} (hcall : ds'.call u = ds.call u) (hpc : ds'.sys.pc u = ds.sys.pc u)
    (hbuf : ds'.buf u = ds.buf u) (hget : ∀ r, DiskRef.get ds'.sys.data r = DiskRef.get ds.sys.data r)
    (hslot : ∀ x n, ds.call u = .readraid x → (ds.sys.pc u).slotDisk ds.sys.data = some n →
      ds'.disks n (vblock c T x.toNat) = ds.disks n (vblock c T x.toNat)) :
    retOf c T ds' u = retOf c T ds u := by
  unfold retOf
  rw [hcall, hpc, PC.slotDisk_congr hget, hbuf]
  rcases hc : ds.call u with _ | _ <;> try rfl
  rcases hn : (ds.sys.pc u).slotDisk ds.sys.data with _ | n
  · rfl
  · exact hslot _ n hc hn

omit [DecidableEq τ] in
theorem retOf_of_not_reader (ds : DataSys τ) {u : τ} (h : ∀ x, ds.call u ≠ .readraid x) : retOf c T ds u = ds.buf u := by
  unfold retOf
  split
  · next x _ hc _ => exact absurd hc (h x)
  · rfl

omit [DecidableEq τ] in
theorem MemAgree.congr {x : Int} {v : Block} (h : MemAgree c T P ds x v)
    (hwr : ∀ w, WriterIn c T ds' w x ↔ WriterIn c T ds w x)
    (hw : ∀ w, WriterIn c T ds w x → ds'.buf w = ds.buf w ∧ (ds'.sys.pc w).stage = (ds.sys.pc w).stage)
    (hvalid : ∀ e, (ds'.sys.data.raidmeta.diskinfo e).valid = true →
      (ds.sys.data.raidmeta.diskinfo e).valid = true)
    (hdisks : ∀ j : Fin 2, ds'.disks (P (vpair c T x.toNat) j + 1) (vblock c T x.toNat) =
      ds.disks (P (vpair c T x.toNat) j + 1) (vblock c T x.toNat)) :
    MemAgree c T P ds' x v := by
  refine ⟨fun w hw' => ?_, fun j hv hst => ?_⟩
  · have hin := (hwr w).mp hw'
    rw [(hw w hin).1]
    exact h.1 w hin
  · rw [hdisks j]
    refine h.2 j (hvalid _ hv) fun w hin => ?_
    rw [← (hw w hin).2]
    exact hst w ((hwr w).mpr hin)

omit [DecidableEq τ] in
theorem liveOf_le (hvalid : ∀ e, (ds'.sys.data.raidmeta.diskinfo e).valid = true →
    (ds.sys.data.raidmeta.diskinfo e).valid = true) (x : Int) :
    liveOf c T ds' x = true → liveOf c T ds x = true := by
  simp only [liveOf, alive, Bool.and_eq_true, Bool.or_eq_true, decide_eq_true_eq]
  rintro ⟨hx, h | h⟩
  · exact ⟨hx, .inl (hvalid _ h)⟩
  · exact ⟨hx, .inr (hvalid _ h)⟩

/-- A step of thread `t` that moves no block another thread reads, only clears
`valid` flags, keeps the disk numbers and leaves every writer where it is in its
pair keeps the relation, with the live blocks, the pending calls and the result
of `t` it leaves. -/
theorem Refines.frame (hR : Refines c T P ds a) (ds' : DataSys τ) {t : τ} (hcall : ds'.call = ds.call)
    (hvalid : ∀ e, (ds'.sys.data.raidmeta.diskinfo e).valid = true →
      (ds.sys.data.raidmeta.diskinfo e).valid = true)
    (hget : ∀ r, DiskRef.get ds'.sys.data r = DiskRef.get ds.sys.data r)
    (hpc : ∀ u, u ≠ t → ds'.sys.pc u = ds.sys.pc u) (hbuf : ∀ u, u ≠ t → ds'.buf u = ds.buf u)
    (hslot : ∀ u x n, u ≠ t → ds.call u = .readraid x → (ds.sys.pc u).slotDisk ds.sys.data = some n →
      ds'.disks n (vblock c T x.toNat) = ds.disks n (vblock c T x.toNat))
    (hdisks : ∀ x, InRange c T x → ∀ j : Fin 2,
      ds'.disks (P (vpair c T x.toNat) j + 1) (vblock c T x.toNat) =
        ds.disks (P (vpair c T x.toNat) j + 1) (vblock c T x.toNat))
    (hwr : ∀ x, ds.call t = .writeraid x → (WriterIn c T ds' t x ↔ WriterIn c T ds t x) ∧
      (WriterIn c T ds t x → ds'.buf t = ds.buf t ∧ (ds'.sys.pc t).stage = (ds.sys.pc t).stage)) :
    Refines c T P ds'
      { a with
        live := liveOf c T ds'
        pending := pendingOf ds'
        ret := Function.update a.ret t (retOf c T ds' t) } := by
  refine ⟨rfl, rfl, ?_, fun x hx => ?_⟩
  · funext u
    by_cases hu : u = t
    · subst hu
      exact Function.update_self _ _ _
    · show Function.update a.ret t _ u = _
      rw [Function.update_of_ne hu, hR.ret]
      exact (retOf_congr _ _ (congrFun hcall u) (hpc u hu) (hbuf u hu) hget (hslot u · · hu)).symm
  · have hx' := liveOf_le hvalid x hx
    rw [← hR.live] at hx'
    have hin : ∀ w, WriterIn c T ds' w x ↔ WriterIn c T ds w x := by
      intro w
      by_cases hw : w = t
      · subst hw
        by_cases hc : ds.call w = .writeraid x
        · exact (hwr x hc).1
        · simp only [WriterIn, hcall, hc, false_and]
      · simp only [WriterIn, hcall, hpc w hw]
    refine (hR.mem x hx').congr hin (fun w hw => ?_) hvalid (hdisks x ?_)
    · by_cases hwt : w = t
      · subst hwt
        exact (hwr x hw.1).2 hw
      · exact ⟨hbuf w hwt, by rw [hpc w hwt]⟩
    · simp only [liveOf, Bool.and_eq_true, decide_eq_true_eq] at hx
      exact hx.1

end Transport

section Moves

variable {c T P} {τ : Type*} [DecidableEq τ] {ds : DataSys τ} {a : Atomic.State τ Int Block}

variable {t : τ} {d' : RaidState} {p' : PC} {D' : Nat → Nat → Block} {v' : Block}

theorem DataSys.writerIn_move {y : Int} (hc : ds.call t ≠ .writeraid y) (w : τ) :
    WriterIn c T (ds.move t d' p' D' v') w y ↔ WriterIn c T ds w y := by
  by_cases hwt : w = t
  · subst hwt
    simp only [WriterIn, DataSys.move_call, hc, false_and]
  · simp only [WriterIn, DataSys.move_call, DataSys.move_pc, Function.update_of_ne hwt]

theorem MemAgree.move_other {y : Int} {v : Block} (h : MemAgree c T P ds y v)
    (hc : ds.call t ≠ .writeraid y)
    (hvalid : ∀ e, (d'.raidmeta.diskinfo e).valid = true → (ds.sys.data.raidmeta.diskinfo e).valid = true)
    (hdisks : ∀ j : Fin 2, D' (P (vpair c T y.toNat) j + 1) (vblock c T y.toNat) =
      ds.disks (P (vpair c T y.toNat) j + 1) (vblock c T y.toNat)) :
    MemAgree c T P (ds.move t d' p' D' v') y v := by
  refine h.congr (DataSys.writerIn_move hc) (fun w hin => ?_) hvalid hdisks
  have hwt : w ≠ t := fun h => hc (h ▸ hin.1)
  simp [Function.update_of_ne hwt]

omit [DecidableEq τ] in
theorem Refines.of_fields {ds' : DataSys τ} (h : Refines c T P ds a) (hd : ds'.sys.data = ds.sys.data)
    (hp : ds'.sys.pc = ds.sys.pc) (hc : ds'.call = ds.call) (hD : ds'.disks = ds.disks)
    (hb : ds'.buf = ds.buf) : Refines c T P ds' a := by
  obtain ⟨⟨d, o, pc, sl⟩, call, D, b⟩ := ds
  obtain ⟨⟨d', o', pc', sl'⟩, call', D', b'⟩ := ds'
  simp only at hd hp hc hD hb
  subst hd hp hc hD hb
  exact ⟨h.1, h.2, h.3, h.4⟩

/-- A step of `t` that moves no block, keeps the flags and numbers of the disks,
keeps `t` before or after its linearization point and keeps its result, and
leaves a writer where it is in its pair, changes nothing of the memory. -/
theorem Refines.move_quiet (hR : Refines c T P ds a)
    (hvalid : ∀ e, (d'.raidmeta.diskinfo e).valid = (ds.sys.data.raidmeta.diskinfo e).valid)
    (hget : ∀ r, DiskRef.get d' r = DiskRef.get ds.sys.data r)
    (hwait : p'.waiting = (ds.sys.pc t).waiting)
    (hret : retOf c T (ds.move t d' p' ds.disks v') t = retOf c T ds t)
    (hwr : ∀ x, ds.call t = .writeraid x →
      (p'.tag = .pWriter (vpair c T x.toNat) ↔ (ds.sys.pc t).tag = .pWriter (vpair c T x.toNat)) ∧
      ((ds.sys.pc t).tag = .pWriter (vpair c T x.toNat) → v' = ds.buf t ∧
        p'.stage = (ds.sys.pc t).stage)) :
    Refines c T P (ds.move t d' p' ds.disks v') a := by
  have h := hR.frame (ds.move t d' p' ds.disks v') (t := t) rfl
    (fun e he => by rwa [← hvalid]) hget (fun u hu => Function.update_of_ne hu _ _)
    (fun u hu => Function.update_of_ne hu _ _) (fun _ _ _ _ _ _ => rfl) (fun _ _ _ => rfl)
    (fun x hx => by
      obtain ⟨htag, hst⟩ := hwr x hx
      simp only [WriterIn, DataSys.move_call, DataSys.move_pc, DataSys.move_buf,
        Function.update_self, hx, true_and]
      exact ⟨htag, hst⟩)
  have hlive : liveOf c T (ds.move t d' p' ds.disks v') = a.live := by
    rw [hR.live]
    funext x
    simp only [liveOf, alive, DataSys.move_data, hvalid]
  have hpend : pendingOf (ds.move t d' p' ds.disks v') = a.pending := by
    rw [hR.pending]
    funext u
    by_cases hu : u = t
    · subst hu
      simp only [pendingOf, DataSys.move_call, DataSys.move_pc, Function.update_self, hwait]
    · simp only [pendingOf, DataSys.move_call, DataSys.move_pc, Function.update_of_ne hu]
  have hret' : Function.update a.ret t (retOf c T (ds.move t d' p' ds.disks v') t) = a.ret := by
    rw [hret, hR.ret, Function.update_eq_self]
  rw [hlive, hpend, hret'] at h
  exact h

end Moves

section Effects

variable {c T P} {τ : Type*} [DecidableEq τ] {ds : DataSys τ} {a : Atomic.State τ Int Block}
  {t : τ}

variable (c T P) in
/-- What the steps of the relation read of a state of a run: the frame, where
the readers in a slot are, no writer in a pair that is not written, one writer
per pair, and no writer in a pair with a reader in a slot. -/
structure Obs (ds : DataSys τ) : Prop where
  frame : Frame c T P ds.sys.data
  slots : ∀ u x n, ds.call u = .readraid x → (ds.sys.pc u).slotDisk ds.sys.data = some n →
    ∃ i, n = P (vpair c T x.toNat) i + 1 ∧ (ds.sys.pc u).tag = .pSlot (vpair c T x.toNat) i ∧
      InRange c T x ∧ P (vpair c T x.toNat) i < c.DISKS
  idle : ∀ q u, MirrorPair c T q → (ds.sys.data.raidmeta.data.diskpair q).writing = false →
    (ds.sys.pc u).tag ≠ .pWriter q
  writer : ∀ q u v, MirrorPair c T q → (ds.sys.pc u).tag = .pWriter q →
    (ds.sys.pc v).tag = .pWriter q → u = v
  excl : ∀ q i u v, MirrorPair c T q → (ds.sys.pc u).tag = .pSlot q i →
    (ds.sys.pc v).tag ≠ .pWriter q

/-- A read or a write that gives up changes nothing but its pending flag. -/
theorem Refines.move_giveUp (hR : Refines c T P ds a) {p' : PC}
    (hwait : (ds.sys.pc t).waiting = true) (hwait' : p'.waiting = false)
    (hslot : (ds.sys.pc t).slotDisk ds.sys.data = none) (hslot' : p'.slotDisk ds.sys.data = none)
    (htag : ∀ x, ds.call t = .writeraid x → (ds.sys.pc t).tag = .idle ∧ p'.tag = .idle) :
    Refines c T P (ds.move t ds.sys.data p' ds.disks (ds.buf t)) (Atomic.giveUp a t) := by
  have h := hR.frame (ds.move t ds.sys.data p' ds.disks (ds.buf t)) (t := t) rfl
    (fun _ he => he) (fun _ => rfl) (fun u hu => Function.update_of_ne hu _ _)
    (fun u hu => Function.update_of_ne hu _ _) (fun _ _ _ _ _ _ => rfl) (fun _ _ _ => rfl)
    (fun x hx => by
      obtain ⟨h₀, h₁⟩ := htag x hx
      simp [WriterIn, h₀, h₁])
  have hlive : liveOf c T (ds.move t ds.sys.data p' ds.disks (ds.buf t)) = a.live := by
    rw [hR.live]
    rfl
  have hpend : pendingOf (ds.move t ds.sys.data p' ds.disks (ds.buf t)) =
      Function.update a.pending t false := by
    rw [hR.pending]
    funext u
    by_cases hu : u = t
    · subst hu
      simp [pendingOf, hwait']
    · simp [pendingOf, Function.update_of_ne hu]
  have hret : Function.update a.ret t (retOf c T (ds.move t ds.sys.data p' ds.disks (ds.buf t)) t) =
      a.ret := by
    rw [hR.ret, Function.update_eq_iff]
    refine ⟨?_, fun _ _ => rfl⟩
    unfold retOf
    simp only [DataSys.move_call, DataSys.move_pc, DataSys.move_data, DataSys.move_buf,
      Function.update_self, hslot, hslot']
    split <;> rfl
  rw [hlive, hpend, hret] at h
  exact h

omit [DecidableEq τ] in
theorem liveOf_of_valid (hl : MirrorLevel c T) (hL : PairLayout c T P) {x : Int} {i : Fin 2}
    (hx : InRange c T x) (hv : (ds.sys.data.raidmeta.diskinfo (P (vpair c T x.toNat) i)).valid = true) :
    liveOf c T ds x = true := by
  obtain ⟨h₀, h₁⟩ := hL _ (hx.mirrorPair hl)
  simp only [liveOf, Bool.and_eq_true, decide_eq_true_eq]
  refine ⟨hx, alive_of_valid ?_ hv⟩
  rcases Fin.exists_fin_two.mp ⟨i, rfl⟩ with rfl | rfl
  · exact .inl h₀
  · exact .inr h₁

omit [DecidableEq τ] in
theorem liveOf_of_dead (hl : MirrorLevel c T) (hL : PairLayout c T P) {x : Int}
    (h : ∀ i : Fin 2, (ds.sys.data.raidmeta.diskinfo (P (vpair c T x.toNat) i)).valid = false) :
    liveOf c T ds x = false := by
  by_contra hlive
  simp only [liveOf, Bool.not_eq_false, Bool.and_eq_true, decide_eq_true_eq] at hlive
  obtain ⟨hx, hal⟩ := hlive
  obtain ⟨h₀, h₁⟩ := hL _ (hx.mirrorPair hl)
  obtain ⟨m, hm | hm, hv⟩ := exists_valid_of_alive hal
  · rw [hm, ← h₀, h 0] at hv
    contradiction
  · rw [hm, ← h₁, h 1] at hv
    contradiction

omit [DecidableEq τ] in
theorem liveOf_of_not_inRange {x : Int} (hx : ¬ InRange c T x) : liveOf c T ds x = false := by
  simp [liveOf, hx]

omit [DecidableEq τ] in
/-- A valid disk of a pair that no writer is in holds the memory's block. -/
theorem Refines.disk_eq (hR : Refines c T P ds a) (hO : Obs c T P ds) (hl : MirrorLevel c T)
    (hL : PairLayout c T P) {x : Int} {i : Fin 2} (hx : InRange c T x)
    (hw : (ds.sys.data.raidmeta.data.diskpair (vpair c T x.toNat)).writing = false)
    (hv : (ds.sys.data.raidmeta.diskinfo (P (vpair c T x.toNat) i)).valid = true) :
    ds.disks (P (vpair c T x.toNat) i + 1) (vblock c T x.toNat) = a.mem x := by
  have hlive : a.live x = true := by
    rw [hR.live]
    exact liveOf_of_valid hl hL hx hv
  exact (hR.mem x hlive).2 i hv fun w hin => absurd hin.2 (hO.idle _ w (hx.mirrorPair hl) hw)

/-- A reader that claims slot `i` of its pair takes effect: the disk it will
read holds the memory's block. -/
theorem Refines.move_claim (hR : Refines c T P ds a) (hO : Obs c T P ds) (hl : MirrorLevel c T)
    (hL : PairLayout c T P) {x : Int} {i : Fin 2} (hcall : ds.call t = .readraid x)
    (hx : InRange c T x)
    (hw : (ds.sys.data.raidmeta.data.diskpair (vpair c T x.toNat)).writing = false)
    (hv : (ds.sys.data.raidmeta.diskinfo (P (vpair c T x.toNat) i)).valid = true) :
    Refines c T P (ds.move t (setReading (vpair c T x.toNat) i true ds.sys.data)
      (.rel (.lock (.mutex (vpair c T x.toNat))) (.rdDiskn (vpair c T x.toNat) i)) ds.disks (ds.buf t))
      (Atomic.perform (.read x) a t) := by
  set q := vpair c T x.toNat
  set ds' := ds.move t (setReading q i true ds.sys.data)
    (.rel (.lock (.mutex q)) (.rdDiskn q i)) ds.disks (ds.buf t)
  have hlt := hL.lt_of_valid hO.frame.wiring (hx.mirrorPair hl) hv
  have h := hR.frame ds' (t := t) rfl (fun _ he => he) DiskRef.get_setReading
    (fun u hu => Function.update_of_ne hu _ _) (fun u hu => Function.update_of_ne hu _ _)
    (fun _ _ _ _ _ _ => rfl) (fun _ _ _ => rfl) (fun x' hx' => by rw [hcall] at hx'; cases hx')
  have hlive : liveOf c T ds' = a.live := by
    rw [hR.live]
    rfl
  have hpend : pendingOf ds' = Function.update a.pending t false := by
    rw [hR.pending]
    funext u
    by_cases hu : u = t
    · subst hu
      simp [ds', pendingOf, PC.waiting]
    · simp [ds', pendingOf, Function.update_of_ne hu]
  -- the slot's disk holds the block, as no writer is in the pair
  have hret : retOf c T ds' t = a.mem x := by
    have hget : DiskRef.get (setReading q i true ds.sys.data) (.pairDiskn q i) = P q i + 1 := by
      rw [DiskRef.get_setReading, hO.frame.get_pairDiskn hlt]
    simp only [retOf, ds', DataSys.move_call, DataSys.move_pc, DataSys.move_data, DataSys.move_disks,
      Function.update_self, hcall, PC.slotDisk, hget]
    exact hR.disk_eq hO hl hL hx hw hv
  rw [hlive, hpend, hret] at h
  exact h

/-- A writer that sets `writing` of its pair takes effect: the memory's block is
its buffer from then on, and the disks it has still to reach may differ. -/
theorem Refines.move_enter (hR : Refines c T P ds a) (hO : Obs c T P ds) (hl : MirrorLevel c T)
    {x : Int} (hcall : ds.call t = .writeraid x) (hx : InRange c T x)
    (hw : (ds.sys.data.raidmeta.data.diskpair (vpair c T x.toNat)).writing = false) :
    Refines c T P (ds.move t (setWriting (vpair c T x.toNat) true ds.sys.data)
      (.rel (.lock (.mutex (vpair c T x.toNat))) (.acq (.pairDisk (vpair c T x.toNat) 0)
        (.acq (.pairDisk (vpair c T x.toNat) 1) (.wrTest (vpair c T x.toNat) 0)))) ds.disks (ds.buf t))
      (Atomic.perform (.write x (ds.buf t)) a t) := by
  set q := vpair c T x.toNat
  set p' : PC := .rel (.lock (.mutex q)) (.acq (.pairDisk q 0) (.acq (.pairDisk q 1) (.wrTest q 0)))
  set ds' := ds.move t (setWriting q true ds.sys.data) p' ds.disks (ds.buf t)
  have hq := hx.mirrorPair hl
  have hpc : ∀ u, u ≠ t → ds'.sys.pc u = ds.sys.pc u := fun u hu => Function.update_of_ne hu _ _
  refine ⟨?_, ?_, ?_, fun y hy => ?_⟩
  · show a.live = _
    rw [hR.live]
    rfl
  · show Function.update a.pending t false = _
    rw [hR.pending]
    funext u
    by_cases hu : u = t
    · subst hu
      simp [ds', p', pendingOf, PC.waiting]
    · simp [ds', pendingOf, Function.update_of_ne hu]
  · show a.ret = _
    rw [hR.ret]
    funext u
    by_cases hu : u = t
    · subst hu
      simp [retOf, ds', p', hcall]
    · exact (retOf_congr ds ds' rfl (hpc u hu) (Function.update_of_ne hu _ _)
        DiskRef.get_setWriting fun _ _ _ _ => rfl).symm
  · show MemAgree c T P ds' y (Function.update a.mem x (ds.buf t) y)
    by_cases hyx : y = x
    · subst hyx
      rw [Function.update_self]
      -- `t` is the only writer in the pair, and has reached no disk of it
      have hone : ∀ w, WriterIn c T ds' w y → w = t := by
        rintro w ⟨-, htag⟩
        by_contra hwt
        rw [hpc w hwt] at htag
        exact hO.idle q w hq hw htag
      have ht : WriterIn c T ds' t y := ⟨hcall, by simp [ds', p', q]⟩
      refine ⟨fun w hin => ?_, fun j _ hst => ?_⟩
      · rw [hone w hin]
        simp [ds']
      · have h0 := hst t ht
        simp [ds', p', PC.stage] at h0
    · -- the writers of other blocks are where they were; `t` writes `x` only
      have hc : ds.call t ≠ .writeraid y := fun h => hyx (PC.writeraid.inj (h.symm.trans hcall))
      rw [Function.update_of_ne hyx]
      exact (hR.mem y hy).move_other hc (fun _ he => he) fun _ => rfl

omit [DecidableEq τ] in
theorem Obs.slot_ne (hO : Obs c T P ds) (hl : MirrorLevel c T) (hL : PairLayout c T P) {u w : τ}
    {x y : Int} {n : Nat} {i : Fin 2} (hu : ds.call u = .readraid y)
    (hn : (ds.sys.pc u).slotDisk ds.sys.data = some n) (hx : InRange c T x)
    (hw : (ds.sys.pc w).tag = .pWriter (vpair c T x.toNat)) : n ≠ P (vpair c T x.toNat) i + 1 := by
  obtain ⟨j, rfl, htag, hy, -⟩ := hO.slots u y n hu hn
  intro heq
  by_cases hp : vpair c T y.toNat = vpair c T x.toNat
  · rw [hp] at htag
    exact hO.excl _ j u w (hx.mirrorPair hl) htag hw
  · exact (hL.disk_ne hl hx.vpair_lt hy.vpair_lt hp j : P _ j ≠ P _ i) (by omega)

/-- A writer inside its pair that passes disk `i`, writing its buffer there when
the disk is valid, changes nothing of the memory. -/
theorem Refines.move_advance (hR : Refines c T P ds a) (hO : Obs c T P ds) (hl : MirrorLevel c T)
    (hL : PairLayout c T P) (hord : PairsOrdered c T P) {x : Int} {i : Fin 2} {p' : PC}
    {D' : Nat → Nat → Block} (hcall : ds.call t = .writeraid x) (hx : InRange c T x)
    (htag : (ds.sys.pc t).tag = .pWriter (vpair c T x.toNat)) (hst : (ds.sys.pc t).stage = i)
    (hwait : (ds.sys.pc t).waiting = false) (htag' : p'.tag = .pWriter (vpair c T x.toNat))
    (hst' : p'.stage = i + 1) (hwait' : p'.waiting = false)
    (hD : ∀ n b, D' n b ≠ ds.disks n b → n = P (vpair c T x.toNat) i + 1 ∧ b = vblock c T x.toNat)
    (hDv : (ds.sys.data.raidmeta.diskinfo (P (vpair c T x.toNat) i)).valid = true →
      D' (P (vpair c T x.toNat) i + 1) (vblock c T x.toNat) = ds.buf t) :
    Refines c T P (ds.move t ds.sys.data p' D' (ds.buf t)) a := by
  set q := vpair c T x.toNat
  set ds' := ds.move t ds.sys.data p' D' (ds.buf t)
  have hpc : ∀ u, u ≠ t → ds'.sys.pc u = ds.sys.pc u := fun u hu => Function.update_of_ne hu _ _
  have hbuf : ds'.buf = ds.buf := by simp [ds']
  have hone : ∀ w, (ds.sys.pc w).tag = .pWriter q → w = t :=
    fun w hw => hO.writer q w t (hx.mirrorPair hl) hw htag
  refine ⟨?_, ?_, ?_, fun y hy => ?_⟩
  · rw [hR.live]
    rfl
  · rw [hR.pending]
    funext u
    by_cases hu : u = t
    · subst hu
      simp [ds', pendingOf, hwait, hwait']
    · simp [ds', pendingOf, Function.update_of_ne hu]
  · rw [hR.ret]
    funext u
    by_cases hu : u = t
    · subst hu
      simp [retOf, ds', hcall]
    · -- no reader in a slot reads the block the writer moves
      refine (retOf_congr ds ds' rfl (hpc u hu) (by rw [hbuf]) (fun _ => rfl)
        fun y n hy hn => ?_).symm
      by_contra hne
      exact hO.slot_ne hl hL hy hn hx htag (hD n _ hne).1
  · have hy' : a.live y = true := hy
    by_cases hyx : y = x
    · subst hyx
      obtain ⟨hA, hB⟩ := hR.mem y hy'
      have ht : WriterIn c T ds t y := ⟨hcall, htag⟩
      have ht' : WriterIn c T ds' t y := ⟨hcall, by simp [ds', htag', q]⟩
      refine ⟨fun w hw => ?_, fun j hv hpre => ?_⟩
      · have hwt : w = t := by
          by_contra hwt
          exact hwt (hone w (by rw [← hpc w hwt]; exact hw.2))
        rw [hwt, hbuf]
        exact hA t ht
      · have hj : j.val < i.val + 1 := by
          have := hpre t ht'
          simpa [ds', hst'] using this
        by_cases hji : j = i
        · subst hji
          exact (hDv hv).trans (hA t ht)
        · have hne : P q j ≠ P q i := fun h => hji (hord.disk_inj (hx.mirrorPair hl) h)
          have hD' : D' (P q j + 1) (vblock c T y.toNat) = ds.disks (P q j + 1) (vblock c T y.toNat) := by
            by_contra h
            exact hne (by have := (hD _ _ h).1; omega)
          rw [show ds'.disks = D' from rfl, hD']
          refine hB j hv fun w hw => ?_
          rw [hone w hw.2, hst]
          have : j.val ≠ i.val := fun h => hji (Fin.ext h)
          omega
    · have hyr : InRange c T y := by
        rw [hR.live] at hy'
        simp only [liveOf, Bool.and_eq_true, decide_eq_true_eq] at hy'
        exact hy'.1
      have hc : ds.call t ≠ .writeraid y := fun h => hyx (PC.writeraid.inj (h.symm.trans hcall))
      refine (hR.mem y hy').move_other hc (fun _ he => he) fun j => ?_
      -- the block the writer moves is not a block of `y`
      by_contra h
      obtain ⟨h₁, h₂⟩ := hD _ _ h
      have hd : P (vpair c T y.toNat) j + 1 = P (vpair c T x.toNat) i + 1 := h₁
      exact hyx (hL.place_inj hl hx hyr (i := i) (j := j) (by omega) h₂)

/-- A writer that clears `writing` of its pair has passed both of its disks, and
leaves the memory as it is. -/
theorem Refines.move_clear (hR : Refines c T P ds a) (hO : Obs c T P ds) (hl : MirrorLevel c T)
    {x : Int} (hcall : ds.call t = .writeraid x) (hx : InRange c T x)
    (hp : ds.sys.pc t = .wrClear (vpair c T x.toNat) .done) :
    Refines c T P (ds.move t (setWriting (vpair c T x.toNat) false ds.sys.data)
      (.rel (.lock (.mutex (vpair c T x.toNat))) (.wake (.pair (vpair c T x.toNat)) .done))
      ds.disks (ds.buf t)) a := by
  set q := vpair c T x.toNat
  set ds' := ds.move t (setWriting q false ds.sys.data) (.rel (.lock (.mutex q)) (.wake (.pair q) .done))
    ds.disks (ds.buf t)
  have hpc : ∀ u, u ≠ t → ds'.sys.pc u = ds.sys.pc u := fun u hu => Function.update_of_ne hu _ _
  have htag : (ds.sys.pc t).tag = .pWriter q := by
    rw [hp]
    rfl
  have hone : ∀ w, (ds.sys.pc w).tag = .pWriter q → w = t :=
    fun w hw => hO.writer q w t (hx.mirrorPair hl) hw htag
  refine ⟨?_, ?_, ?_, fun y hy => ?_⟩
  · rw [hR.live]
    rfl
  · rw [hR.pending]
    funext u
    by_cases hu : u = t
    · subst hu
      simp [ds', pendingOf, hp, PC.waiting]
    · simp [ds', pendingOf, Function.update_of_ne hu]
  · rw [hR.ret]
    funext u
    by_cases hu : u = t
    · subst hu
      simp [retOf, ds', hcall]
    · exact (retOf_congr ds ds' rfl (hpc u hu) (Function.update_of_ne hu _ _)
        DiskRef.get_setWriting fun _ _ _ _ => rfl).symm
  · by_cases hyx : y = x
    · subst hyx
      -- `t` was the only writer of the pair and had passed both disks; none is left
      refine ⟨fun w hw => absurd hw.2 ?_, fun j hv _ => (hR.mem y hy).2 j hv fun w hw => ?_⟩
      · by_cases hwt : w = t
        · subst hwt
          simp [ds', q]
        · rw [hpc w hwt]
          exact fun h => hwt (hone w h)
      · rw [hone w hw.2, hp]
        exact j.isLt
    · have hc : ds.call t ≠ .writeraid y := fun h => hyx (PC.writeraid.inj (h.symm.trans hcall))
      exact (hR.mem y hy).move_other hc (fun _ he => he) fun _ => rfl

/-- A step of a thread that neither reads nor writes, clears `valid` flags only
and moves no block of the array loses the blocks whose pairs it kills. -/
theorem Refines.move_lose (hR : Refines c T P ds a) (hO : Obs c T P ds) {d' : RaidState} {p' : PC}
    {D' : Nat → Nat → Block} (hcall : (ds.call t).onMemory = false)
    (hvalid : ∀ e, (d'.raidmeta.diskinfo e).valid = true → (ds.sys.data.raidmeta.diskinfo e).valid = true)
    (hget : ∀ r, DiskRef.get d' r = DiskRef.get ds.sys.data r)
    (hD : ∀ x, InRange c T x → ∀ n, D' n (vblock c T x.toNat) = ds.disks n (vblock c T x.toNat)) :
    Refines c T P (ds.move t d' p' D' (ds.buf t))
      { a with live := liveOf c T (ds.move t d' p' D' (ds.buf t)) } := by
  set ds' := ds.move t d' p' D' (ds.buf t)
  have hnot : ∀ x, ds.call t ≠ .readraid x ∧ ds.call t ≠ .writeraid x := by
    intro x
    constructor <;> intro h <;> simp [h, PC.onMemory] at hcall
  have h := hR.frame ds' (t := t) rfl hvalid hget (fun u hu => Function.update_of_ne hu _ _)
    (fun u hu => Function.update_of_ne hu _ _)
    (fun u x n _ hu hn => hD x (hO.slots u x n hu hn).choose_spec.2.2.1 n)
    (fun x hx j => hD x hx _) (fun x hx => absurd hx (hnot x).2)
  have hpend : pendingOf ds' = a.pending := by
    rw [hR.pending]
    funext u
    by_cases hu : u = t
    · subst hu
      simp [ds', pendingOf, hcall]
    · simp [ds', pendingOf, Function.update_of_ne hu]
  have hret : Function.update a.ret t (retOf c T ds' t) = a.ret := by
    rw [hR.ret, Function.update_eq_iff]
    refine ⟨?_, fun _ _ => rfl⟩
    rw [retOf_of_not_reader ds' (fun x => (hnot x).1), retOf_of_not_reader ds (fun x => (hnot x).1)]
    simp [ds']
  rw [hpend, hret] at h
  exact h

end Effects

end Xv6Raid.LockLevel
