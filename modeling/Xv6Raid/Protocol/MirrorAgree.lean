import Xv6Raid.Protocol.MirrorThreads
import Xv6Raid.Protocol.PairExclusion

/-!
The two disks of a mirrored pair never diverge (kernel/raid.c, raid1.c,
raid0_1.c). Along every run of `readraid`, `writeraid`, `raidfail` and
`raidrepair` calls, two valid disks of a pair hold the same data block unless a
writer inside the pair is writing that block. A writer inside its pair has
stored its buffer on every valid disk it has passed; a repair inside its pair
has copied the blocks below its loop counter and, between its `read_block` and
its `write_block`, holds the partner's block in its buffer. Only the thread that
set `writing` of a pair writes a data block of the pair's disks or marks one of
them valid, so no other step disturbs any of this, also when the repair's check
of its partner is stale.
-/

namespace Xv6Raid.LockLevel

open LockProgram Threads

/-- How many blocks of its disk a mirror repair at each point has copied. -/
def PC.copied : PC → Nat
  | .rpCopy _ _ _ b => b
  | .io _ (.io _ (.rpCopy _ _ _ (b + 1))) | .io _ (.rpCopy _ _ _ (b + 1)) => b
  | .acq _ k | .rel _ k => k.copied
  | .rpValid _ _ | .wrClear _ _ => diskblockn + 1
  | _ => 0

section Flags

variable {d : RaidState} {q e : Nat} {b : Bool}

@[simp] theorem setWriting_diskinfo : (setWriting q b d).raidmeta.diskinfo = d.raidmeta.diskinfo := rfl

@[simp] theorem setReading_diskinfo {i : Fin 2} :
    (setReading q i b d).raidmeta.diskinfo = d.raidmeta.diskinfo := rfl

theorem valid_setValid_of_ne {e' : Nat} (h : e' ≠ e) :
    ((setValid e b d).raidmeta.diskinfo e').valid = (d.raidmeta.diskinfo e').valid := by
  simp [setValid, RaidState.setDiskinfo, Function.update_of_ne h]

end Flags

variable (c : Config) (T : RAID_TYPE) (P : Nat → Fin 2 → Nat) {τ : Type*}

/-- Block `b` of the two disks of pair `q` holds the same data. -/
def PairAgree (D : Nat → Nat → Block) (q b : Nat) : Prop :=
  D (P q 0 + 1) b = D (P q 1 + 1) b

/-- A step from the data `d` and the disks `D` to `d'` and `D'` marks no disk
of pair `q` valid and moves no data block of them. -/
def KeepsPair (d d' : RaidState) (D D' : Nat → Nat → Block) (q : Nat) : Prop :=
  ∀ i, ((d'.raidmeta.diskinfo (P q i)).valid = true → (d.raidmeta.diskinfo (P q i)).valid = true) ∧
    ∀ b < diskblockn, D' (P q i + 1) b = D (P q i + 1) b

/-- One thread at most is inside each pair. -/
def OneInside (ds : DataSys τ) : Prop :=
  ∀ q u v, MirrorPair c T q → (ds.sys.pc u).tag = .pWriter q → (ds.sys.pc v).tag = .pWriter q → u = v

/-- What every state of a run on a mirrored array keeps of the data blocks of
its pairs. -/
structure Mirrored (ds : DataSys τ) : Prop where
  /-- Two valid disks of a pair agree on every block no writer inside is writing. -/
  idle : ∀ q, MirrorPair c T q → ∀ b < diskblockn,
    (ds.sys.data.raidmeta.diskinfo (P q 0)).valid = true →
    (ds.sys.data.raidmeta.diskinfo (P q 1)).valid = true →
    (∀ w x, WriterIn c T ds w x → vpair c T x.toNat = q → vblock c T x.toNat ≠ b) →
    PairAgree P ds.disks q b
  /-- A writer inside its pair has stored its buffer on the valid disks it passed. -/
  writer : ∀ w x, WriterIn c T ds w x → ∀ i : Fin 2,
    (ds.sys.data.raidmeta.diskinfo (P (vpair c T x.toNat) i)).valid = true →
    (i : Nat) < (ds.sys.pc w).stage →
    ds.disks (P (vpair c T x.toNat) i + 1) (vblock c T x.toNat) = ds.buf w
  /-- A repair inside its pair has copied the blocks below its loop counter. -/
  repairer : ∀ r n q, ds.call r = .raidrepair n → (ds.sys.pc r).tag = .pWriter q →
    ∀ b < diskblockn, b < (ds.sys.pc r).copied → PairAgree P ds.disks q b
  /-- Between its `read_block` and its `write_block` a repair holds the partner's block. -/
  copying : ∀ r n d q e b, ds.call r = .raidrepair n →
    ds.sys.pc r = .io (.diskn d) (.rpCopy d q e (b + 1)) → b < diskblockn →
    ds.buf r = ds.disks (e + 1) b

section Inside

variable {c T P} {p : PC} {q d e b : Nat}

theorem KeepsPair.agree {d d' : RaidState} {D D' : Nat → Nat → Block} (h : KeepsPair P d d' D D' q)
    (hb : b < diskblockn) : PairAgree P D' q b ↔ PairAgree P D q b := by
  rw [PairAgree, PairAgree, (h 0).2 b hb, (h 1).2 b hb]

theorem PC.tag_of_entry (h : p.entry) : p.tag = .idle := by
  cases p <;> simp_all [PC.entry]

theorem MetaAt.outside (h : MetaAt p) :
    (∀ q, p.tag ≠ .pWriter q) ∧ ∀ d q e b, p ≠ .io (.diskn d) (.rpCopy d q e (b + 1)) := by
  cases h <;> simp

theorem MetaAt.next_outside (h : MetaAt p) (dt : RaidState) :
    (∀ q, (next (code c) p dt).2.tag ≠ .pWriter q) ∧
      ∀ d q e b, (next (code c) p dt).2 ≠ .io (.diskn d) (.rpCopy d q e (b + 1)) := by
  rcases (metaAt_next (c := c) (d := dt) h).2 with h' | h'
  · exact h'.outside
  · rw [h']
    simp

theorem MetaAt.transfer_lt (h : MetaAt p) (call : PC) (dt : RaidState) (D : Nat → Nat → Block)
    (v : Block) (n : Nat) (hb : b < diskblockn) : (transfer c call p dt D v).1 n b = D n b := by
  cases h
  case write i => simp [transfer, hb.ne]
  all_goals rfl

theorem WriterAt.inside {x : Int} {q' : Nat} (h : WriterAt c T P x q p) (ht : p.tag = .pWriter q') :
    q' = q ∧ InRange c T x := by
  cases h
  all_goals simp only [PC.tag, reduceCtorEq, Tag.pWriter.injEq] at ht
  all_goals exact ⟨ht.symm, by assumption⟩

theorem RepairerAt.pair {n : Int} (h : RepairerAt c T P n p) (ht : p.tag = .pWriter q) :
    ∃ d e, RepairPair c T P q d e := by
  cases h
  case store hm => exact absurd ht (hm.outside.1 q)
  all_goals simp only [PC.tag, reduceCtorEq, Tag.pWriter.injEq] at ht
  all_goals
    subst ht
    exact ⟨_, _, by assumption⟩

theorem RepairerAt.write_pair {n : Int} (h : RepairerAt c T P n (.io (.diskn d) (.rpCopy d q e (b + 1)))) :
    RepairPair c T P q d e := by
  cases h with
  | write hr _ => exact hr
  | store hm => cases hm

theorem ThreadAt.mirrorPair (hl : MirrorLevel c T) {call : PC} (h : ThreadAt c T P call p)
    (ht : p.tag = .pWriter q) : MirrorPair c T q := by
  cases call
  all_goals simp only [ThreadAt] at h
  case readraid x => cases h <;> simp at ht
  case writeraid x =>
    obtain ⟨rfl, hx⟩ := h.inside ht
    exact hx.mirrorPair hl
  case raidfail n =>
    cases h
    case store hm => exact absurd ht (hm.outside.1 q)
    all_goals simp at ht
  case raidrepair n =>
    obtain ⟨d, e, hr⟩ := h.pair ht
    exact hr.1

theorem RepairPair.agree_copy (hord : PairsOrdered c T P) (hr : RepairPair c T P q d e)
    (D : Nat → Nat → Block) : PairAgree P (putBlock D (d + 1) b (D (e + 1) b)) q b := by
  have hlt := hord q hr.1
  rcases hr.2.2.2 with ⟨rfl, rfl⟩ | ⟨rfl, rfl⟩
  · simp [PairAgree, hlt.ne']
  · simp [PairAgree, hlt.ne]

theorem RepairPair.disk_ne (hr : RepairPair c T P q d e) (hl : MirrorLevel c T) (hL : PairLayout c T P)
    {q' : Nat} (hq' : MirrorPair c T q') (hne : q' ≠ q) (j : Fin 2) : P q' j ≠ d ∧ P q' j ≠ e := by
  have hq := (mirrorPair_iff hl).mp hr.1
  have hq'' := (mirrorPair_iff hl).mp hq'
  rcases hr.2.2.2 with ⟨rfl, rfl⟩ | ⟨rfl, rfl⟩
  · exact ⟨hL.disk_ne hl hq hq'' hne j, hL.disk_ne hl hq hq'' hne j⟩
  · exact ⟨hL.disk_ne hl hq hq'' hne j, hL.disk_ne hl hq hq'' hne j⟩

/-- `read_block(pair->diskn, i, data)` of the copy loop reads the partner's block. -/
theorem transfer_copyRead {dt : RaidState} (hf : Frame c T P dt) (he : e < c.DISKS) (call : PC)
    (D : Nat → Nat → Block) (v : Block) :
    transfer c call (.io (.diskn e) (.io (.diskn d) (.rpCopy d q e (b + 1)))) dt D v = (D, D (e + 1) b) := by
  simp [transfer, DiskRef.get, hf.wiring.diskn e he]

/-- `write_block(raidmeta.diskinfo[diskn].diskn, i, data)` of the copy loop writes the buffer. -/
theorem transfer_copyWrite {dt : RaidState} (hf : Frame c T P dt) (hd : d < c.DISKS) (call : PC)
    (D : Nat → Nat → Block) (v : Block) :
    transfer c call (.io (.diskn d) (.rpCopy d q e (b + 1))) dt D v = (putBlock D (d + 1) b v, v) := by
  simp [transfer, DiskRef.get, hf.wiring.diskn d hd]

variable [DecidableEq τ] {ds : DataSys τ} {buf₀ : τ → Block}

omit [DecidableEq τ] in
theorem DInv.mirrorPair (hI : DInv c T P buf₀ ds) (hl : MirrorLevel c T) {u : τ}
    (ht : (ds.sys.pc u).tag = .pWriter q) : MirrorPair c T q :=
  (hI.threads u).mirrorPair hl ht

omit [DecidableEq τ] in
theorem DInv.inRange (hI : DInv c T P buf₀ ds) {w : τ} {x : Int} (h : WriterIn c T ds w x) :
    InRange c T x := by
  have hat := hI.threads w
  rw [h.1] at hat
  exact (WriterAt.inside hat h.2).2

omit [DecidableEq τ] in
theorem DInv.write_pair (hI : DInv c T P buf₀ ds) {r : τ} {n : Int} (hr : ds.call r = .raidrepair n)
    (hp : ds.sys.pc r = .io (.diskn d) (.rpCopy d q e (b + 1))) : RepairPair c T P q d e := by
  have hat := hI.threads r
  rw [hr, hp] at hat
  exact RepairerAt.write_pair hat

omit [DecidableEq τ] in
theorem OneInside.tag_ne (h : OneInside c T ds) (hq : MirrorPair c T q) {u t : τ}
    (hu : (ds.sys.pc u).tag = .pWriter q) (hut : u ≠ t) : (ds.sys.pc t).tag ≠ .pWriter q :=
  fun ht => hut (h q u t hq hu ht)

end Inside

section Moves

variable {c T P} [DecidableEq τ] {ds : DataSys τ} {buf₀ : τ → Block} {t : τ}
  {d' : RaidState} {p' : PC} {D' : Nat → Nat → Block} {v' : Block}

theorem writerIn_move_self {x : Int} :
    WriterIn c T (ds.move t d' p' D' v') t x ↔ ds.call t = .writeraid x ∧ p'.tag = .pWriter (vpair c T x.toNat) := by
  simp [WriterIn]

theorem writerIn_move_of_ne {w : τ} {x : Int} (h : w ≠ t) :
    WriterIn c T (ds.move t d' p' D' v') w x ↔ WriterIn c T ds w x := by
  simp [WriterIn, Function.update_of_ne h]

/-- A step of thread `t` keeps the invariant if it keeps every pair it is not
inside, keeps two valid disks of the pair it is inside in agreement where it is
not writing, and leaves its own records true. -/
theorem Mirrored.move_of (hM : Mirrored c T P ds) (hI : DInv c T P buf₀ ds) (hl : MirrorLevel c T)
    (hone : OneInside c T ds)
    (hkeep : ∀ q, MirrorPair c T q → (ds.sys.pc t).tag ≠ .pWriter q →
      KeepsPair P ds.sys.data d' ds.disks D' q)
    (hidle : ∀ q, (ds.sys.pc t).tag = .pWriter q → MirrorPair c T q → ∀ b < diskblockn,
      (d'.raidmeta.diskinfo (P q 0)).valid = true → (d'.raidmeta.diskinfo (P q 1)).valid = true →
      (∀ x, ds.call t = .writeraid x → p'.tag = .pWriter (vpair c T x.toNat) →
        vpair c T x.toNat = q → vblock c T x.toNat ≠ b) → PairAgree P D' q b)
    (hwr : ∀ x, ds.call t = .writeraid x → p'.tag = .pWriter (vpair c T x.toNat) → ∀ i : Fin 2,
      (d'.raidmeta.diskinfo (P (vpair c T x.toNat) i)).valid = true → (i : Nat) < p'.stage →
      D' (P (vpair c T x.toNat) i + 1) (vblock c T x.toNat) = v')
    (hrp : ∀ n q, ds.call t = .raidrepair n → p'.tag = .pWriter q → ∀ b < diskblockn,
      b < p'.copied → PairAgree P D' q b)
    (hcp : ∀ n d q e b, ds.call t = .raidrepair n → p' = .io (.diskn d) (.rpCopy d q e (b + 1)) →
      b < diskblockn → v' = D' (e + 1) b) :
    Mirrored c T P (ds.move t d' p' D' v') := by
  refine ⟨fun q hq b hb hv₀ hv₁ hw => ?_, fun w x hw i hv hi => ?_, fun r n q hr ht b hb hc => ?_,
    fun r n m q e b hr hp hb => ?_⟩
  · by_cases ht : (ds.sys.pc t).tag = .pWriter q
    · exact hidle q ht hq b hb hv₀ hv₁ fun x hx hx' => hw t x (writerIn_move_self.mpr ⟨hx, hx'⟩)
    · -- a pair `t` is not inside is kept, and so are its writers
      have hk := hkeep q hq ht
      refine (hk.agree hb).mpr (hM.idle q hq b hb ((hk 0).1 hv₀) ((hk 1).1 hv₁) fun w x hwx hxq => ?_)
      have hwt : w ≠ t := by
        rintro rfl
        exact ht (hxq ▸ hwx.2)
      exact hw w x ((writerIn_move_of_ne hwt).mpr hwx) hxq
  · by_cases hwt : w = t
    · subst hwt
      obtain ⟨hc, htag⟩ := writerIn_move_self.mp hw
      simp only [DataSys.move_pc, Function.update_self] at hi
      simpa using hwr x hc htag i hv hi
    · -- another writer's pair is kept, as `t` is not inside it
      have hw' := (writerIn_move_of_ne hwt).mp hw
      have hq := hI.mirrorPair hl hw'.2
      have hk := hkeep _ hq (hone.tag_ne hq hw'.2 hwt)
      simp only [DataSys.move_pc, DataSys.move_buf, DataSys.move_disks, Function.update_of_ne hwt] at hi ⊢
      rw [(hk i).2 _ (hI.inRange hw').vblock_lt]
      exact hM.writer w x hw' i ((hk i).1 hv) hi
  · by_cases hrt : r = t
    · subst hrt
      simp only [DataSys.move_pc, DataSys.move_call, Function.update_self] at ht hc hr
      exact hrp n q hr ht b hb hc
    · simp only [DataSys.move_pc, DataSys.move_call, Function.update_of_ne hrt] at ht hc hr
      have hq := hI.mirrorPair hl ht
      exact ((hkeep q hq (hone.tag_ne hq ht hrt)).agree hb).mpr (hM.repairer r n q hr ht b hb hc)
  · by_cases hrt : r = t
    · subst hrt
      simp only [DataSys.move_pc, DataSys.move_call, DataSys.move_buf, Function.update_self] at hp hr ⊢
      exact hcp n m q e b hr hp hb
    · simp only [DataSys.move_pc, DataSys.move_call, DataSys.move_buf, DataSys.move_disks,
        Function.update_of_ne hrt] at hp hr ⊢
      -- the partner is a disk of the pair of the other repair, which `t` is not inside
      have hrp := hI.write_pair hr hp
      have ht : (ds.sys.pc r).tag = .pWriter q := by
        rw [hp]
        rfl
      have hk := hkeep q hrp.1 (hone.tag_ne hrp.1 ht hrt)
      obtain ⟨j, hj⟩ : ∃ j, e = P q j := by
        rcases hrp.2.2.2 with ⟨-, h⟩ | ⟨-, h⟩
        · exact ⟨1, h⟩
        · exact ⟨0, h⟩
      rw [hj, (hk j).2 b hb, ← hj]
      exact hM.copying r n m q e b hr hp hb

/-- A step that marks no disk valid and moves no data block, and after which
`t` is still inside a pair it was inside. -/
theorem Mirrored.move_quiet (hM : Mirrored c T P ds) (hI : DInv c T P buf₀ ds) (hl : MirrorLevel c T)
    (hone : OneInside c T ds)
    (hvalid : ∀ e, (d'.raidmeta.diskinfo e).valid = true → (ds.sys.data.raidmeta.diskinfo e).valid = true)
    (hD : ∀ n b, b < diskblockn → D' n b = ds.disks n b)
    (hin : ∀ x, ds.call t = .writeraid x → (ds.sys.pc t).tag = .pWriter (vpair c T x.toNat) →
      p'.tag = .pWriter (vpair c T x.toNat))
    (hwr : ∀ x, ds.call t = .writeraid x → p'.tag = .pWriter (vpair c T x.toNat) → ∀ i : Fin 2,
      (d'.raidmeta.diskinfo (P (vpair c T x.toNat) i)).valid = true → (i : Nat) < p'.stage →
      D' (P (vpair c T x.toNat) i + 1) (vblock c T x.toNat) = v')
    (hrp : ∀ n q, ds.call t = .raidrepair n → p'.tag = .pWriter q → ∀ b < diskblockn,
      b < p'.copied → PairAgree P D' q b)
    (hcp : ∀ n d q e b, ds.call t = .raidrepair n → p' = .io (.diskn d) (.rpCopy d q e (b + 1)) →
      b < diskblockn → v' = D' (e + 1) b) :
    Mirrored c T P (ds.move t d' p' D' v') := by
  refine hM.move_of hI hl hone (fun q _ _ i => ⟨hvalid _, hD _⟩) (fun q ht hq b hb hv₀ hv₁ hw => ?_)
    hwr hrp hcp
  rw [PairAgree, hD _ b hb, hD _ b hb]
  refine hM.idle q hq b hb (hvalid _ hv₀) (hvalid _ hv₁) fun w x hwx hxq => ?_
  -- only `t` is inside the pair, and it stays there
  obtain rfl : t = w := hone q w t hq (hxq ▸ hwx.2) ht |>.symm
  exact hw x hwx.1 (hin x hwx.1 hwx.2) hxq

/-- A step at which `t` keeps its place in its pair, its stage, its count of
copied blocks and its buffer. -/
theorem Mirrored.move_same (hM : Mirrored c T P ds) (hI : DInv c T P buf₀ ds) (hl : MirrorLevel c T)
    (hone : OneInside c T ds)
    (hvalid : ∀ e, (d'.raidmeta.diskinfo e).valid = true → (ds.sys.data.raidmeta.diskinfo e).valid = true)
    (hD : ∀ n b, b < diskblockn → D' n b = ds.disks n b)
    (htag : p'.tag = (ds.sys.pc t).tag) (hst : p'.stage = (ds.sys.pc t).stage)
    (hcop : p'.copied = (ds.sys.pc t).copied)
    (hio : ∀ d q e b, p' ≠ .io (.diskn d) (.rpCopy d q e (b + 1))) :
    Mirrored c T P (ds.move t d' p' D' (ds.buf t)) := by
  refine hM.move_quiet hI hl hone hvalid hD (fun x _ h => htag.trans h) (fun x hc ht i hv hi => ?_)
    (fun n q hc ht b hb hb' => ?_) fun n d q e b _ h => absurd h (hio d q e b)
  · rw [htag] at ht
    rw [hD _ _ (hI.inRange ⟨hc, ht⟩).vblock_lt]
    exact hM.writer t x ⟨hc, ht⟩ i (hvalid _ hv) (hst ▸ hi)
  · rw [htag] at ht
    rw [PairAgree, hD _ b hb, hD _ b hb]
    exact hM.repairer t n q hc ht b hb (hcop ▸ hb')

/-- A step after which `t` is in no pair, and before which it is no writer
inside one. -/
theorem Mirrored.move_outside (hM : Mirrored c T P ds) (hI : DInv c T P buf₀ ds) (hl : MirrorLevel c T)
    (hone : OneInside c T ds)
    (hvalid : ∀ e, (d'.raidmeta.diskinfo e).valid = true → (ds.sys.data.raidmeta.diskinfo e).valid = true)
    (hD : ∀ n b, b < diskblockn → D' n b = ds.disks n b)
    (ho : ∀ x, ds.call t = .writeraid x → (ds.sys.pc t).tag ≠ .pWriter (vpair c T x.toNat))
    (hn : ∀ q, p'.tag ≠ .pWriter q) (hio : ∀ d q e b, p' ≠ .io (.diskn d) (.rpCopy d q e (b + 1))) :
    Mirrored c T P (ds.move t d' p' D' v') :=
  hM.move_quiet hI hl hone hvalid hD (fun x hc h => absurd h (ho x hc)) (fun _ _ h => absurd h (hn _))
    (fun _ q _ h => absurd h (hn q)) fun _ d q e b _ h => absurd h (hio d q e b)

/-- A step of a thread that neither writes nor repairs. -/
theorem Mirrored.move_bystander (hM : Mirrored c T P ds) (hI : DInv c T P buf₀ ds) (hl : MirrorLevel c T)
    (hone : OneInside c T ds)
    (hvalid : ∀ e, (d'.raidmeta.diskinfo e).valid = true → (ds.sys.data.raidmeta.diskinfo e).valid = true)
    (hD : ∀ n b, b < diskblockn → D' n b = ds.disks n b)
    (hw : ∀ x, ds.call t ≠ .writeraid x) (hr : ∀ n, ds.call t ≠ .raidrepair n) :
    Mirrored c T P (ds.move t d' p' D' v') :=
  hM.move_quiet hI hl hone hvalid hD (fun x hc => absurd hc (hw x)) (fun x hc => absurd hc (hw x))
    (fun n _ hc => absurd hc (hr n)) fun n _ _ _ _ hc => absurd hc (hr n)

/-- A step at which `t` enters a pair with nothing written or copied yet. -/
theorem Mirrored.move_enter (hM : Mirrored c T P ds) (hI : DInv c T P buf₀ ds) (hl : MirrorLevel c T)
    (hone : OneInside c T ds)
    (hvalid : ∀ e, (d'.raidmeta.diskinfo e).valid = true → (ds.sys.data.raidmeta.diskinfo e).valid = true)
    (hD : ∀ n b, b < diskblockn → D' n b = ds.disks n b) (ho : ∀ q, (ds.sys.pc t).tag ≠ .pWriter q)
    (hst : ∀ x, ds.call t = .writeraid x → p'.stage = 0) (hcop : p'.copied = 0)
    (hio : ∀ d q e b, p' ≠ .io (.diskn d) (.rpCopy d q e (b + 1))) :
    Mirrored c T P (ds.move t d' p' D' v') :=
  hM.move_quiet hI hl hone hvalid hD (fun _ _ h => absurd h (ho _))
    (fun x hc _ _ _ hi => absurd (hst x hc ▸ hi) (Nat.not_lt_zero _))
    (fun _ _ _ _ _ _ hb => absurd (hcop ▸ hb) (Nat.not_lt_zero _)) fun _ d q e b _ h => absurd h (hio d q e b)

end Moves

section Writer

variable {c T P} [DecidableEq τ] {ds : DataSys τ} {buf₀ : τ → Block} {t : τ} {x : Int} {i : Fin 2}
  {p' : PC}

omit [DecidableEq τ] in
theorem WriterIn.not_repair {w : τ} (h : WriterIn c T ds w x) (n : Int) : ds.call w ≠ .raidrepair n := by
  rw [h.1]
  simp

/-- `if (diskpair->disk[i]->valid)` fails: the writer passes an invalid disk. -/
theorem Mirrored.move_advance (hM : Mirrored c T P ds) (hI : DInv c T P buf₀ ds) (hl : MirrorLevel c T)
    (hone : OneInside c T ds) (hw : WriterIn c T ds t x) (hst : (ds.sys.pc t).stage = i)
    (hv : (ds.sys.data.raidmeta.diskinfo (P (vpair c T x.toNat) i)).valid = false)
    (htag : p'.tag = .pWriter (vpair c T x.toNat)) (hst' : p'.stage = i + 1) :
    Mirrored c T P (ds.move t ds.sys.data p' ds.disks (ds.buf t)) := by
  refine hM.move_quiet hI hl hone (fun _ h => h) (fun _ _ _ => rfl) (fun y hc _ => ?_) (fun y hc _ j hj hji => ?_)
    (fun n _ hc => absurd hc (hw.not_repair n)) fun n _ _ _ _ hc => absurd hc (hw.not_repair n)
  · obtain rfl : x = y := PC.writeraid.inj (hw.1.symm.trans hc)
    exact htag
  · obtain rfl : x = y := PC.writeraid.inj (hw.1.symm.trans hc)
    -- the disk passed is invalid, so only the disks before it are written
    have hne : (j : Nat) ≠ i := fun h => by
      rw [Fin.ext h, hv] at hj
      contradiction
    exact hM.writer t x hw j hj (by omega)

/-- `write_block(diskpair->disk[i]->diskn, pblkn, data)`: the writer stores its
buffer on disk `i` of its pair. -/
theorem Mirrored.move_write (hM : Mirrored c T P ds) (hI : DInv c T P buf₀ ds) (hl : MirrorLevel c T)
    (hL : PairLayout c T P) (hord : PairsOrdered c T P) (hone : OneInside c T ds)
    (hw : WriterIn c T ds t x) (hst : (ds.sys.pc t).stage = i)
    (htag : p'.tag = .pWriter (vpair c T x.toNat)) (hst' : p'.stage = i + 1) :
    Mirrored c T P (ds.move t ds.sys.data p'
      (putBlock ds.disks (P (vpair c T x.toNat) i + 1) (vblock c T x.toNat) (ds.buf t)) (ds.buf t)) := by
  have hx := hI.inRange hw
  have hq := hx.mirrorPair hl
  refine hM.move_of hI hl hone (fun q' hq' ht j => ⟨id, fun b _ => ?_⟩)
    (fun q ht _ b hb hv₀ hv₁ hwb => ?_) (fun y hc _ j hj hji => ?_)
    (fun n _ hc => absurd hc (hw.not_repair n)) fun n _ _ _ _ hc => absurd hc (hw.not_repair n)
  · -- another pair's disks are not written
    have hne : q' ≠ vpair c T x.toNat := fun h => ht (h ▸ hw.2)
    have hd := hL.disk_ne hl hx.vpair_lt ((mirrorPair_iff hl).mp hq') hne j (i := i)
    rw [putBlock_apply, if_neg fun h => hd (by omega)]
  · -- in its pair the writer writes the block of `x` only
    obtain rfl : q = vpair c T x.toNat := (Tag.pWriter.inj (hw.2.symm.trans ht)).symm
    have hbx : vblock c T x.toNat ≠ b := hwb x hw.1 htag rfl
    simp only [PairAgree, putBlock_apply, hbx.symm, and_false, if_false]
    refine hM.idle _ hq b hb hv₀ hv₁ fun w y hwy hyq => ?_
    obtain rfl : t = w := (hone _ w t hq (hyq ▸ hwy.2) hw.2).symm
    obtain rfl : x = y := PC.writeraid.inj (hw.1.symm.trans hwy.1)
    exact hbx
  · obtain rfl : x = y := PC.writeraid.inj (hw.1.symm.trans hc)
    rw [putBlock_apply]
    by_cases hj' : j = i
    · rw [if_pos ⟨by rw [hj'], rfl⟩]
    · -- the other disk of the pair was written before
      have hne : P (vpair c T x.toNat) j ≠ P (vpair c T x.toNat) i := fun h => hj' (hord.disk_inj hq h)
      rw [if_neg fun h => hne (by omega)]
      have hlt : (j : Nat) < i := by
        have : (j : Nat) ≠ i := fun h => hj' (Fin.ext h)
        omega
      exact hM.writer t x hw j hj (by omega)

/-- `diskpair->writing = 0`: the writer leaves its pair with its buffer on both
valid disks. -/
theorem Mirrored.move_leave (hM : Mirrored c T P ds) (hI : DInv c T P buf₀ ds) (hl : MirrorLevel c T)
    (hone : OneInside c T ds) {d' : RaidState} (hw : WriterIn c T ds t x) (hst : (ds.sys.pc t).stage = 2)
    (hvalid : ∀ e, (d'.raidmeta.diskinfo e).valid = (ds.sys.data.raidmeta.diskinfo e).valid)
    (hn : ∀ q, p'.tag ≠ .pWriter q) : Mirrored c T P (ds.move t d' p' ds.disks (ds.buf t)) := by
  have hq := (hI.inRange hw).mirrorPair hl
  refine hM.move_of hI hl hone (fun q _ _ i => ⟨fun h => by rwa [hvalid] at h, fun _ _ => rfl⟩)
    (fun q ht _ b hb hv₀ hv₁ _ => ?_) (fun _ _ h => absurd h (hn _))
    (fun n _ hc => absurd hc (hw.not_repair n)) fun n _ _ _ _ hc => absurd hc (hw.not_repair n)
  obtain rfl : q = vpair c T x.toNat := (Tag.pWriter.inj (hw.2.symm.trans ht)).symm
  rw [hvalid] at hv₀ hv₁
  by_cases hb' : vblock c T x.toNat = b
  · -- the block written is the buffer on both valid disks
    subst hb'
    rw [PairAgree, hM.writer t x hw 0 hv₀ (by rw [hst]; decide), hM.writer t x hw 1 hv₁ (by rw [hst]; decide)]
  · refine hM.idle _ hq b hb hv₀ hv₁ fun w y hwy hyq => ?_
    obtain rfl : t = w := (hone _ w t hq (hyq ▸ hwy.2) hw.2).symm
    obtain rfl : x = y := PC.writeraid.inj (hw.1.symm.trans hwy.1)
    exact hb'

theorem Mirrored.writer_step (hM : Mirrored c T P ds) (hI : DInv c T P buf₀ ds) (hl : MirrorLevel c T)
    (hL : PairLayout c T P) (hord : PairsOrdered c T P) (hone : OneInside c T ds)
    (hcall : ds.call t = .writeraid x) (hat : WriterAt c T P x (vpair c T x.toNat) (ds.sys.pc t)) :
    Mirrored c T P (ds.moved c t) := by
  have hf := hI.frame
  have hin : ∀ {p : PC}, ds.sys.pc t = p → p.tag = .pWriter (vpair c T x.toNat) → WriterIn c T ds t x :=
    fun hp h => ⟨hcall, hp ▸ h⟩
  unfold DataSys.moved
  generalize hp : ds.sys.pc t = p at hat ⊢
  cases hat
  case call =>
    simp only [next, code, writeEntry_mirror hl hf]
    split_ifs <;>
      exact hM.move_same hI hl hone (fun _ h => h) (fun _ _ _ => rfl) (by rw [hp]; rfl) (by rw [hp]; rfl)
        (by rw [hp]; rfl) (by simp)
  case loop hx =>
    simp only [next, code]
    unfold wrLoopStep
    dsimp only
    split_ifs
    · exact hM.move_same hI hl hone (fun _ h => h) (fun _ _ _ => rfl) (by rw [hp]; rfl) (by rw [hp]; rfl)
        (by rw [hp]; rfl) (by simp)
    · exact hM.move_same hI hl hone (fun _ h => h) (fun _ _ _ => rfl) (by rw [hp]; rfl) (by rw [hp]; rfl)
        (by rw [hp]; rfl) (by simp)
    · -- `writing = 1`: the writer enters its pair with nothing written
      exact hM.move_enter hI hl hone (fun _ h => h) (fun _ _ _ => rfl) (by rw [hp]; simp)
        (fun _ _ => rfl) rfl (by simp)
  case test i hx =>
    simp only [next, code]
    unfold wrTestStep
    dsimp only
    rw [hf.good.2]
    rcases Fin.exists_fin_two.mp ⟨i, rfl⟩ with rfl | rfl
    · rw [if_pos (rfl : (0 : Fin 2) = 0)]
      split_ifs with hv
      · exact hM.move_same hI hl hone (fun _ h => h) (fun _ _ _ => rfl) (by rw [hp]; rfl)
          (by rw [hp]; rfl) (by rw [hp]; rfl) (by simp)
      · exact hM.move_advance hI hl hone (hin hp rfl) (by rw [hp]; rfl) (Bool.of_not_eq_true hv) rfl rfl
    · rw [if_neg (show (1 : Fin 2) ≠ 0 by decide)]
      split_ifs with hv
      · exact hM.move_same hI hl hone (fun _ h => h) (fun _ _ _ => rfl) (by rw [hp]; rfl)
          (by rw [hp]; rfl) (by rw [hp]; rfl) (by simp)
      · exact hM.move_advance hI hl hone (hin hp rfl) (by rw [hp]; rfl) (Bool.of_not_eq_true hv) rfl rfl
  case write0 hx hlt =>
    simp only [next, code, hcall, transfer_write hf hlt]
    exact hM.move_write hI hl hL hord hone (hin hp rfl) (by rw [hp]; rfl) rfl rfl
  case write1 hx hlt =>
    simp only [next, code, hcall, transfer_write hf hlt]
    exact hM.move_write hI hl hL hord hone (hin hp rfl) (by rw [hp]; rfl) rfl rfl
  case clear hx =>
    exact hM.move_leave hI hl hone (hin hp rfl) (by rw [hp]; rfl) (fun _ => rfl) (by simp [next, code])
  case wake =>
    exact hM.move_outside hI hl hone (fun _ h => h) (fun _ _ _ => rfl) (fun _ _ => by rw [hp]; simp)
      (by simp [next, code]) (by simp [next, code])
  all_goals
    -- the other points keep the writer's place, stage and buffer
    exact hM.move_same hI hl hone (fun _ h => h) (fun _ _ _ => rfl) (by rw [hp]; rfl) (by rw [hp]; rfl)
      (by rw [hp]; rfl) (by simp [next, code])

end Writer

section Repairer

variable {c T P} [DecidableEq τ] {ds : DataSys τ} {buf₀ : τ → Block} {t : τ} {n : Int}
  {d q e b : Nat}

/-- `read_block(pair->diskn, i, data)`: the repair takes the partner's block
into its buffer. -/
theorem Mirrored.move_read (hM : Mirrored c T P ds) (hI : DInv c T P buf₀ ds) (hl : MirrorLevel c T)
    (hone : OneInside c T ds) (hcall : ds.call t = .raidrepair n)
    (hp : ds.sys.pc t = .io (.diskn e) (.io (.diskn d) (.rpCopy d q e (b + 1)))) :
    Mirrored c T P (ds.move t ds.sys.data (.io (.diskn d) (.rpCopy d q e (b + 1))) ds.disks
      (ds.disks (e + 1) b)) := by
  have hnw : ∀ x, ds.call t ≠ .writeraid x := fun x h => by
    rw [hcall] at h
    cases h
  refine hM.move_quiet hI hl hone (fun _ h => h) (fun _ _ _ => rfl) (fun x hc => absurd hc (hnw x))
    (fun x hc => absurd hc (hnw x)) (fun n' q' hc ht b' hb hb' => ?_) fun n' d' q' e' b' _ hp' _ => ?_
  · -- the read keeps the pair and the count of copied blocks
    have ht' : (ds.sys.pc t).tag = .pWriter q' := by
      rw [hp]
      exact ht
    exact hM.repairer t n q' hcall ht' b' hb (by rw [hp]; exact hb')
  · simp only [PC.io.injEq, DiskRef.diskn.injEq, PC.rpCopy.injEq] at hp'
    obtain ⟨-, -, -, rfl, hbb⟩ := hp'
    obtain rfl : b = b' := by omega
    rfl

/-- `write_block(raidmeta.diskinfo[diskn].diskn, i, data)`: the repair stores
the partner's block on its disk. -/
theorem Mirrored.move_copy (hM : Mirrored c T P ds) (hI : DInv c T P buf₀ ds) (hl : MirrorLevel c T)
    (hL : PairLayout c T P) (hord : PairsOrdered c T P) (hone : OneInside c T ds)
    (hcall : ds.call t = .raidrepair n) (hp : ds.sys.pc t = .io (.diskn d) (.rpCopy d q e (b + 1))) :
    Mirrored c T P (ds.move t ds.sys.data (.rpCopy d q e (b + 1)) (putBlock ds.disks (d + 1) b (ds.buf t))
      (ds.buf t)) := by
  have hr := hI.write_pair hcall hp
  have ht : (ds.sys.pc t).tag = .pWriter q := by
    rw [hp]
    rfl
  have hnw : ∀ x, ds.call t ≠ .writeraid x := fun x h => by
    rw [hcall] at h
    cases h
  -- after the write, block `b` of the pair agrees
  have hagree : b < diskblockn → PairAgree P (putBlock ds.disks (d + 1) b (ds.buf t)) q b := fun hb => by
    rw [hM.copying t n d q e b hcall hp hb]
    exact hr.agree_copy hord ds.disks
  refine hM.move_of hI hl hone (fun q' hq' ht' j => ⟨id, fun b' _ => ?_⟩)
    (fun q' ht' hq b' hb' hv₀ hv₁ _ => ?_) (fun x hc => absurd hc (hnw x))
    (fun n' q' _ ht' b' hb' hc => ?_) fun _ _ _ _ _ _ h => by cases h
  · -- the disk written is on no other pair
    have hne : q' ≠ q := fun h => ht' (h ▸ ht)
    rw [putBlock_apply, if_neg fun h => (hr.disk_ne hl hL hq' hne j).1 (by omega)]
  · obtain rfl : q = q' := Tag.pWriter.inj (ht.symm.trans ht')
    by_cases hbb : b' = b
    · subst hbb
      exact hagree hb'
    · simp only [PairAgree, putBlock_apply, hbb, and_false, if_false]
      refine hM.idle q hq b' hb' hv₀ hv₁ fun w y hwy hyq => ?_
      -- no writer is inside the pair with the repair
      obtain rfl : t = w := (hone q w t hq (hyq ▸ hwy.2) ht).symm
      exact absurd hwy.1 (hnw y)
  · obtain rfl : q = q' := Tag.pWriter.inj ht'
    have hc' : b' < b + 1 := hc
    by_cases hbb : b' = b
    · subst hbb
      exact hagree hb'
    · simp only [PairAgree, putBlock_apply, hbb, and_false, if_false]
      exact hM.repairer t n q hcall ht b' hb' (by rw [hp]; show b' < b; omega)

/-- `pair->valid = 1`: the repair marks its disk valid once every block is copied. -/
theorem Mirrored.move_valid (hM : Mirrored c T P ds) (hI : DInv c T P buf₀ ds) (hl : MirrorLevel c T)
    (hL : PairLayout c T P) (hone : OneInside c T ds) (hcall : ds.call t = .raidrepair n)
    (hp : ds.sys.pc t = .rpValid d q) (hr : RepairPair c T P q d e) :
    Mirrored c T P (ds.move t (setValid d true ds.sys.data)
      (.acq (.lock (.mutex q)) (.wrClear q (writeraidmeta .done))) ds.disks (ds.buf t)) := by
  have ht : (ds.sys.pc t).tag = .pWriter q := by
    rw [hp]
    rfl
  have hnw : ∀ x, ds.call t ≠ .writeraid x := fun x h => by
    rw [hcall] at h
    cases h
  -- every block was copied before the disk is marked valid
  have hall : ∀ b < diskblockn, PairAgree P ds.disks q b := fun b hb =>
    hM.repairer t n q hcall ht b hb (by rw [hp]; show b < diskblockn + 1; omega)
  refine hM.move_of hI hl hone (fun q' hq' ht' j => ⟨fun h => ?_, fun _ _ => rfl⟩)
    (fun q' ht' _ b hb _ _ _ => ?_) (fun x hc => absurd hc (hnw x))
    (fun n' q' _ ht' b hb _ => ?_) fun _ _ _ _ _ _ h => by cases h
  · -- only disk `d` is marked valid, and it is on pair `q`
    have hne : q' ≠ q := fun h => ht' (h ▸ ht)
    rwa [valid_setValid_of_ne (hr.disk_ne hl hL hq' hne j).1] at h
  · obtain rfl : q = q' := Tag.pWriter.inj (ht.symm.trans ht')
    exact hall b hb
  · obtain rfl : q = q' := Tag.pWriter.inj ht'
    exact hall b hb

theorem Mirrored.repairer_step (hM : Mirrored c T P ds) (hI : DInv c T P buf₀ ds) (hl : MirrorLevel c T)
    (hL : PairLayout c T P) (hord : PairsOrdered c T P) (hone : OneInside c T ds)
    (hcall : ds.call t = .raidrepair n) (hat : RepairerAt c T P n (ds.sys.pc t)) :
    Mirrored c T P (ds.moved c t) := by
  have hf := hI.frame
  have hnw : ∀ x, ds.call t ≠ .writeraid x := fun x h => by
    rw [hcall] at h
    cases h
  unfold DataSys.moved
  generalize hp : ds.sys.pc t = p at hat ⊢
  cases hat
  case call =>
    simp only [next, code]
    rcases repairEntry_cases hf hl hL n with (h | h) | ⟨q, m, e, hr, hn, h⟩ <;> rw [h] <;>
      exact hM.move_same hI hl hone (fun _ h => h) (fun _ _ _ => rfl) (by rw [hp]; rfl) (by rw [hp]; rfl)
        (by rw [hp]; rfl) (by simp)
  case loop q d e hr _ =>
    simp only [next, code]
    unfold rpLoopStep
    dsimp only
    split_ifs
    · exact hM.move_same hI hl hone (fun _ h => h) (fun _ _ _ => rfl) (by rw [hp]; rfl) (by rw [hp]; rfl)
        (by rw [hp]; rfl) (by simp)
    · -- `writing = 1`: the repair enters the pair with nothing copied
      exact hM.move_enter hI hl hone (fun _ h => h) (fun _ _ _ => rfl) (by rw [hp]; simp)
        (fun x h => absurd h (hnw x)) rfl (by simp)
  case copy q d e b hr hb _ =>
    simp only [next, code]
    unfold rpCopyNext
    split_ifs with hb'
    · exact hM.move_same hI hl hone (fun _ h => h) (fun _ _ _ => rfl) (by rw [hp]; rfl) (by rw [hp]; rfl)
        (by rw [hp]; rfl) (by simp)
    · -- past the last block the count is the number of blocks
      obtain rfl : b = diskblockn + 1 := by omega
      exact hM.move_same hI hl hone (fun _ h => h) (fun _ _ _ => rfl) (by rw [hp]; rfl) (by rw [hp]; rfl)
        (by rw [hp]; rfl) (by simp)
  case read q d e b hr hb _ =>
    simp only [next, code, transfer_copyRead hf hr.2.2.1]
    exact hM.move_read hI hl hone hcall hp
  case write q d e b hr hb _ =>
    simp only [next, code, transfer_copyWrite hf hr.2.1]
    exact hM.move_copy hI hl hL hord hone hcall hp
  case valid q d e hr _ =>
    exact hM.move_valid hI hl hL hone hcall hp hr
  case clear q d e hr _ =>
    exact hM.move_outside hI hl hone (fun _ h => h) (fun _ _ _ => rfl) (fun x h => absurd h (hnw x))
      (by simp [next, code]) (by simp [next, code])
  case wake q =>
    exact hM.move_outside hI hl hone (fun _ h => h) (fun _ _ _ => rfl) (fun x h => absurd h (hnw x))
      (by simp [next, code, writeraidmeta]) (by simp [next, code, writeraidmeta])
  case store h =>
    have hdata := (metaAt_next (c := c) (d := ds.sys.data) h).1
    exact hM.move_outside hI hl hone (by rw [hdata]; exact fun _ h => h)
      (fun _ _ hb => h.transfer_lt _ _ _ _ _ hb) (fun x h => absurd h (hnw x)) (h.next_outside _).1
      (h.next_outside _).2
  all_goals
    -- the other points keep the repair's place, its count and its buffer
    exact hM.move_same hI hl hone (fun _ h => h) (fun _ _ _ => rfl) (by rw [hp]; rfl) (by rw [hp]; rfl)
      (by rw [hp]; rfl) (by simp [next, code])

end Repairer

section Others

variable {c T P} [DecidableEq τ] {ds : DataSys τ} {buf₀ : τ → Block} {t : τ}

theorem ReaderAt.next_diskinfo {x : Int} {q : Nat} {p : PC} (h : ReaderAt c T P x q p) (dt : RaidState) :
    (next (code c) p dt).1.raidmeta.diskinfo = dt.raidmeta.diskinfo := by
  cases h
  case loop =>
    rcases rdLoopStep_fst q dt with h | ⟨-, i, h⟩ <;> simp only [next, code, h, setReading_diskinfo]
  all_goals rfl

theorem ReaderAt.transfer_fst {x : Int} {q : Nat} {p : PC} (h : ReaderAt c T P x q p) (call : PC)
    (dt : RaidState) (D : Nat → Nat → Block) (v : Block) : (transfer c call p dt D v).1 = D := by
  cases h <;> rfl

theorem Mirrored.reader_step (hM : Mirrored c T P ds) (hI : DInv c T P buf₀ ds) (hl : MirrorLevel c T)
    (hone : OneInside c T ds) {x : Int} (hcall : ds.call t = .readraid x)
    (hat : ReaderAt c T P x (vpair c T x.toNat) (ds.sys.pc t)) : Mirrored c T P (ds.moved c t) := by
  refine hM.move_bystander hI hl hone (fun e h => ?_) (fun m b _ => by rw [hat.transfer_fst]) (fun y h => ?_)
    fun n h => ?_
  · rwa [hat.next_diskinfo] at h
  all_goals
    rw [hcall] at h
    cases h

/-- Every step of a failure keeps the invariant: it clears a `valid` flag, and
`writeraidmeta` writes the block after the data blocks. -/
theorem Mirrored.failer_step (hM : Mirrored c T P ds) (hI : DInv c T P buf₀ ds) (hl : MirrorLevel c T)
    (hone : OneInside c T ds) {n : Int} (hcall : ds.call t = .raidfail n) (hat : FailerAt n (ds.sys.pc t)) :
    Mirrored c T P (ds.moved c t) := by
  have hw : ∀ x, ds.call t ≠ .writeraid x := fun x h => by
    rw [hcall] at h
    cases h
  have hr : ∀ n', ds.call t ≠ .raidrepair n' := fun n' h => by
    rw [hcall] at h
    cases h
  unfold DataSys.moved
  generalize ds.sys.pc t = p at hat ⊢
  cases hat
  case call =>
    simp only [next, code, failStep_eq hI.frame]
    split_ifs
    · exact hM.move_bystander hI hl hone (fun _ h => h) (fun _ _ _ => rfl) hw hr
    · exact hM.move_bystander hI hl hone (fun _ => valid_of_setValid) (fun _ _ _ => rfl) hw hr
  case done => exact hM.move_bystander hI hl hone (fun _ h => h) (fun _ _ _ => rfl) hw hr
  case store h =>
    have hdata := (metaAt_next (c := c) (d := ds.sys.data) h).1
    exact hM.move_bystander hI hl hone (by rw [hdata]; exact fun _ h => h)
      (fun _ _ hb => h.transfer_lt _ _ _ _ _ hb) hw hr

end Others

section Runs

variable {c T P} [DecidableEq τ] {d : RaidState} {calls : τ → PC} {buf₀ : τ → Block} {ds : DataSys τ}

omit [DecidableEq τ] in
theorem Mirrored.of_fields (h : Mirrored c T P ds) {ds' : DataSys τ} (hd : ds'.sys.data = ds.sys.data)
    (hp : ds'.sys.pc = ds.sys.pc) (hc : ds'.call = ds.call) (hD : ds'.disks = ds.disks)
    (hb : ds'.buf = ds.buf) : Mirrored c T P ds' := by
  obtain ⟨⟨data, owner, pc, asleep⟩, call, disks, buf⟩ := ds'
  dsimp only at hd hp hc hD hb
  subst hd hp hc hD hb
  exact ⟨h.idle, h.writer, h.repairer, h.copying⟩

theorem Mirrored.of_moved {t : τ} (hm : Moves (code c) ds.sys t (LockProgram.step (code c) ds.sys t))
    (h : Mirrored c T P (ds.moved c t)) : Mirrored c T P (DataSys.step c ds t) := by
  obtain ⟨hd, hp, hD, hb⟩ := DataSys.step_of_moves hm
  exact h.of_fields hd hp rfl hD hb

theorem Mirrored.step (hM : Mirrored c T P ds) (hI : DInv c T P buf₀ ds) (hone : OneInside c T ds)
    (hl : MirrorLevel c T) (hL : PairLayout c T P) (hord : PairsOrdered c T P) (t : τ) :
    Mirrored c T P (DataSys.step c ds t) := by
  rcases step_moves (code c) ds.sys t with hst | hm
  · rw [DataSys.step_eq_of_step t hst]
    exact hM
  refine Mirrored.of_moved hm ?_
  have hat := hI.threads t
  cases hc : ds.call t
  all_goals simp only [hc, ThreadAt] at hat
  case readraid x => exact hM.reader_step hI hl hone hc hat
  case writeraid x => exact hM.writer_step hI hl hL hord hone hc hat
  case raidfail n => exact hM.failer_step hI hl hone hc hat
  case raidrepair n => exact hM.repairer_step hI hl hL hord hone hc hat

omit [DecidableEq τ] in
/-- At the start of a run no thread is inside a pair, and the pairs are the
mirrors of a state of a sequential run. -/
theorem Mirrored.start (hinv : MirrorInv c T d) (hL : PairLayout c T P) (hl : MirrorLevel c T)
    (h : DStart d calls buf₀ ds) : Mirrored c T P ds := by
  obtain ⟨⟨⟨hd, -, -, hentry⟩, -⟩, -, -, hD, -⟩ := h
  have hout : ∀ u q, (ds.sys.pc u).tag ≠ .pWriter q := fun u q h => by
    rw [PC.tag_of_entry (hentry u)] at h
    cases h
  refine ⟨fun q hq b hb hv₀ hv₁ _ => ?_, fun w x hw => absurd hw.2 (hout w _),
    fun r n q _ ht => absurd ht (hout r q), fun r n m q e b _ hp => ?_⟩
  · obtain ⟨h₀, h₁⟩ := hL q hq
    rw [hd, h₀] at hv₀
    rw [hd, h₁] at hv₁
    rw [PairAgree, hD, h₀, h₁]
    exact hinv.mirror q ((mirrorPair_iff hl).mp hq) hv₀ hv₁ b hb
  · have he := hentry r
    rw [hp] at he
    simp [PC.entry] at he

end Runs

end Xv6Raid.LockLevel
