import Xv6Raid.Protocol.MirrorData
import Xv6Raid.Protocol.Transfers

/-!
The points a thread reaches on a mirrored array when it calls `readraid`,
`writeraid`, `raidfail` or `raidrepair` (kernel/raid.c, raid1.c, raid0_1.c). A
read or a write of virtual block `x` works on pair `vpair x` only: it waits on
the pair's flags under its mutex, claims a slot or the pair, transfers under
the disk locks, and clears its flag. A failure marks a disk invalid and stores
the structure. A repair of a disk checks its partner, waits on the pair as a
writer does, copies every block from the partner and marks the disk valid. Along such calls the array keeps its type, its pairs, its wiring
and `isDestroyed = 0` (`Frame`); a disk that a transfer names is then one of
the real disks, numbered one above its index.
-/

namespace Xv6Raid.LockLevel

open LockProgram Threads

variable (c : Config) (T : RAID_TYPE) (P : Nat → Fin 2 → Nat)

/-- Virtual block `x` lies on the mirrored array of type `T`. -/
def InRange (x : Int) : Prop := 0 ≤ x ∧ x.toNat < diskblockn * npairs c T

instance (x : Int) : Decidable (InRange c T x) := inferInstanceAs (Decidable (_ ∧ _))

/-- The points of `readraid(x)` on pair `q`. -/
inductive ReaderAt (x : Int) (q : Nat) : PC → Prop
  | call : ReaderAt x q (.readraid x)
  | done : ReaderAt x q .done
  | lock : InRange c T x → ReaderAt x q (.acq (.lock (.mutex q)) (.rdLoop q))
  | loop : InRange c T x → ReaderAt x q (.rdLoop q)
  | sleep : InRange c T x →
      ReaderAt x q (.slp (.pair q) (.mutex q) (.acq (.lock (.mutex q)) (.rdLoop q)))
  /-- Both disks invalid: `readdiskpair` returns `-1`. -/
  | dead : ReaderAt x q (.rel (.lock (.mutex q)) .done)
  | claimed {i : Fin 2} : InRange c T x → P q i < c.DISKS →
      ReaderAt x q (.rel (.lock (.mutex q)) (.rdDiskn q i))
  | diskn {i : Fin 2} : InRange c T x → P q i < c.DISKS → ReaderAt x q (.rdDiskn q i)
  | acquire {i : Fin 2} : InRange c T x → P q i < c.DISKS →
      ReaderAt x q (.acq (.pairDisk q i) (.io (.num (P q i + 1))
        (.rel (.pairDisk q i) (.acq (.lock (.mutex q)) (.rdClear q i)))))
  | read {i : Fin 2} : InRange c T x → P q i < c.DISKS →
      ReaderAt x q (.io (.num (P q i + 1))
        (.rel (.pairDisk q i) (.acq (.lock (.mutex q)) (.rdClear q i))))
  | release {i : Fin 2} : InRange c T x →
      ReaderAt x q (.rel (.pairDisk q i) (.acq (.lock (.mutex q)) (.rdClear q i)))
  | relock {i : Fin 2} : InRange c T x → ReaderAt x q (.acq (.lock (.mutex q)) (.rdClear q i))
  | clear {i : Fin 2} : InRange c T x → ReaderAt x q (.rdClear q i)
  | post : ReaderAt x q (.rel (.lock (.mutex q)) (.wake (.pair q) .done))
  | wake : ReaderAt x q (.wake (.pair q) .done)

/-- The points of `writeraid(x)` on pair `q`. -/
inductive WriterAt (x : Int) (q : Nat) : PC → Prop
  | call : WriterAt x q (.writeraid x)
  | done : WriterAt x q .done
  | lock : InRange c T x → WriterAt x q (.acq (.lock (.mutex q)) (.wrLoop q))
  | loop : InRange c T x → WriterAt x q (.wrLoop q)
  | sleep : InRange c T x →
      WriterAt x q (.slp (.pair q) (.mutex q) (.acq (.lock (.mutex q)) (.wrLoop q)))
  /-- Both disks invalid: `writediskpair` returns `-1`. -/
  | dead : WriterAt x q (.rel (.lock (.mutex q)) .done)
  | entered : InRange c T x →
      WriterAt x q (.rel (.lock (.mutex q)) (.acq (.pairDisk q 0) (.acq (.pairDisk q 1) (.wrTest q 0))))
  | lock0 : InRange c T x → WriterAt x q (.acq (.pairDisk q 0) (.acq (.pairDisk q 1) (.wrTest q 0)))
  | lock1 : InRange c T x → WriterAt x q (.acq (.pairDisk q 1) (.wrTest q 0))
  | test {i : Fin 2} : InRange c T x → WriterAt x q (.wrTest q i)
  | write0 : InRange c T x → P q 0 < c.DISKS → WriterAt x q (.io (.pairDiskn q 0) (.wrTest q 1))
  | write1 : InRange c T x → P q 1 < c.DISKS → WriterAt x q (.io (.pairDiskn q 1)
      (.rel (.pairDisk q 0) (.rel (.pairDisk q 1) (.acq (.lock (.mutex q)) (.wrClear q .done)))))
  | release0 : InRange c T x → WriterAt x q
      (.rel (.pairDisk q 0) (.rel (.pairDisk q 1) (.acq (.lock (.mutex q)) (.wrClear q .done))))
  | release1 : InRange c T x →
      WriterAt x q (.rel (.pairDisk q 1) (.acq (.lock (.mutex q)) (.wrClear q .done)))
  | relock : InRange c T x → WriterAt x q (.acq (.lock (.mutex q)) (.wrClear q .done))
  | clear : InRange c T x → WriterAt x q (.wrClear q .done)
  | post : WriterAt x q (.rel (.lock (.mutex q)) (.wake (.pair q) .done))
  | wake : WriterAt x q (.wake (.pair q) .done)

/-- The points of `writeraidmeta()` up to its return. -/
inductive MetaAt : PC → Prop
  | acqAll (i : Nat) : MetaAt (.acqAll i (.metaWrite 1 .done))
  | image (i : Nat) : MetaAt (.metaWrite i .done)
  | write (i : Nat) : MetaAt (.io (.num i) (.metaWrite (i + 1) .done))
  | relAll (i : Nat) : MetaAt (.relAll i .done)

/-- The points of `raidfail(n)`: the call, then `writeraidmeta`. -/
inductive FailerAt (n : Int) : PC → Prop
  | call : FailerAt n (.raidfail n)
  | done : FailerAt n .done
  | store {p : PC} : MetaAt p → FailerAt n p

/-- Disk index `d` of pair `q` is repaired from the other disk `e` of the pair. -/
def RepairPair (q d e : Nat) : Prop :=
  MirrorPair c T q ∧ d < c.DISKS ∧ e < c.DISKS ∧ (d = P q 0 ∧ e = P q 1 ∨ d = P q 1 ∧ e = P q 0)

/-- The points of `raidrepair(n)` on a mirrored array: the wait under the
pair's mutex, the copy of every block from the partner `e` to the disk index
`d = n - 1` under both disk locks, `valid = 1`, `writing = 0`, then
`writeraidmeta`. The partner is checked before the mutex is taken, and not
again. -/
inductive RepairerAt (n : Int) : PC → Prop
  | call : RepairerAt n (.raidrepair n)
  | done : RepairerAt n .done
  | fault : RepairerAt n .fault
  | lock {q d e : Nat} : RepairPair c T P q d e → n = d + 1 →
      RepairerAt n (.acq (.lock (.mutex q)) (.rpLoop d q e))
  | loop {q d e : Nat} : RepairPair c T P q d e → n = d + 1 → RepairerAt n (.rpLoop d q e)
  | sleep {q d e : Nat} : RepairPair c T P q d e → n = d + 1 →
      RepairerAt n (.slp (.pair q) (.mutex q) (.acq (.lock (.mutex q)) (.rpLoop d q e)))
  | entered {q d e : Nat} : RepairPair c T P q d e → n = d + 1 →
      RepairerAt n (.rel (.lock (.mutex q)) (.acq (.pairDisk q 0) (.acq (.pairDisk q 1) (.rpCopy d q e 0))))
  | lock0 {q d e : Nat} : RepairPair c T P q d e → n = d + 1 →
      RepairerAt n (.acq (.pairDisk q 0) (.acq (.pairDisk q 1) (.rpCopy d q e 0)))
  | lock1 {q d e : Nat} : RepairPair c T P q d e → n = d + 1 →
      RepairerAt n (.acq (.pairDisk q 1) (.rpCopy d q e 0))
  | copy {q d e b : Nat} : RepairPair c T P q d e → b ≤ diskblockn + 1 → n = d + 1 →
      RepairerAt n (.rpCopy d q e b)
  | read {q d e b : Nat} : RepairPair c T P q d e → b ≤ diskblockn → n = d + 1 →
      RepairerAt n (.io (.diskn e) (.io (.diskn d) (.rpCopy d q e (b + 1))))
  | write {q d e b : Nat} : RepairPair c T P q d e → b ≤ diskblockn → n = d + 1 →
      RepairerAt n (.io (.diskn d) (.rpCopy d q e (b + 1)))
  | release0 {q d e : Nat} : RepairPair c T P q d e → n = d + 1 →
      RepairerAt n (.rel (.pairDisk q 0) (.rel (.pairDisk q 1) (.rpValid d q)))
  | release1 {q d e : Nat} : RepairPair c T P q d e → n = d + 1 →
      RepairerAt n (.rel (.pairDisk q 1) (.rpValid d q))
  | valid {q d e : Nat} : RepairPair c T P q d e → n = d + 1 → RepairerAt n (.rpValid d q)
  | relock {q d e : Nat} : RepairPair c T P q d e → n = d + 1 →
      RepairerAt n (.acq (.lock (.mutex q)) (.wrClear q (writeraidmeta .done)))
  | clear {q d e : Nat} : RepairPair c T P q d e → n = d + 1 →
      RepairerAt n (.wrClear q (writeraidmeta .done))
  | post {q : Nat} : RepairerAt n (.rel (.lock (.mutex q)) (.wake (.pair q) (writeraidmeta .done)))
  | wake {q : Nat} : RepairerAt n (.wake (.pair q) (writeraidmeta .done))
  | store {p : PC} : MetaAt p → RepairerAt n p

/-- The points a thread making `call` can be at. -/
def ThreadAt : PC → PC → Prop
  | .readraid x, p => ReaderAt c T P x (vpair c T x.toNat) p
  | .writeraid x, p => WriterAt c T P x (vpair c T x.toNat) p
  | .raidfail n, p => FailerAt n p
  | .raidrepair n, p => RepairerAt c T P n p
  | _, _ => False

/-- What reads, writes and failures keep of the data. -/
structure Frame (d : RaidState) : Prop where
  good : Good T P d
  destroyed : d.raidmeta.isDestroyed = false
  read : d.raidmeta.read = some T
  write : d.raidmeta.write = some T
  wiring : Wiring c d.raidmeta

section Layout

variable {c T P} {d : RaidState} {x : Int} {q : Nat} {i : Fin 2}

theorem InRange.vpair_lt (h : InRange c T x) : vpair c T x.toNat < npairs c T :=
  Xv6Raid.vpair_lt h.2

theorem mirrorPair_iff (hl : MirrorLevel c T) : MirrorPair c T q ↔ q < npairs c T := by
  rcases hl with rfl | ⟨rfl, -⟩ <;> simp [MirrorPair, npairs]

theorem InRange.mirrorPair (hl : MirrorLevel c T) (h : InRange c T x) :
    MirrorPair c T (vpair c T x.toNat) :=
  (mirrorPair_iff hl).mpr h.vpair_lt

theorem InRange.vblock_lt (h : InRange c T x) : vblock c T x.toNat < diskblockn :=
  Xv6Raid.vblock_lt h.2

theorem outofrange_iff (hl : MirrorLevel c T) (hT : d.raidmeta.type = T) :
    outofrange c x d ↔ ¬ InRange c T x := by
  rw [outofrange, raidblockn_mirror hl hT, InRange]
  omega

theorem PairLayout.disk_ne (hl : MirrorLevel c T) (hL : PairLayout c T P) {q' : Nat}
    (hq : q < npairs c T) (hq' : q' < npairs c T) (hne : q' ≠ q) (j : Fin 2) : P q' j ≠ P q i := by
  obtain ⟨h₀, h₁⟩ := hL q ((mirrorPair_iff hl).mpr hq)
  obtain ⟨h₀', h₁'⟩ := hL q' ((mirrorPair_iff hl).mpr hq')
  obtain ⟨d₀₀, d₀₁, d₁₀, d₁₁⟩ := pair_disjoint hq hq' hne
  rcases Fin.exists_fin_two.mp ⟨i, rfl⟩ with rfl | rfl <;>
    rcases Fin.exists_fin_two.mp ⟨j, rfl⟩ with rfl | rfl
  · rw [h₀, h₀']
    exact d₀₀
  · rw [h₀, h₁']
    exact d₁₀
  · rw [h₁, h₀']
    exact d₀₁
  · rw [h₁, h₁']
    exact d₁₁

theorem PairsOrdered.disk_inj (hord : PairsOrdered c T P) (hq : MirrorPair c T q) {j : Fin 2}
    (h : P q j = P q i) : j = i := by
  have hlt := hord q hq
  rcases Fin.exists_fin_two.mp ⟨i, rfl⟩ with rfl | rfl <;>
    rcases Fin.exists_fin_two.mp ⟨j, rfl⟩ with rfl | rfl
  all_goals first
    | rfl
    | omega

/-- Two blocks of the array are stored at different places of its disks. -/
theorem PairLayout.place_inj (hl : MirrorLevel c T) (hL : PairLayout c T P) {y : Int}
    (hx : InRange c T x) (hy : InRange c T y) {j : Fin 2}
    (hd : P (vpair c T y.toNat) j = P (vpair c T x.toNat) i)
    (hb : vblock c T y.toNat = vblock c T x.toNat) : y = x := by
  by_cases hp : vpair c T y.toNat = vpair c T x.toNat
  · have h := eq_of_vpair_vblock hp hb
    have := hx.1
    have := hy.1
    omega
  · exact absurd hd (hL.disk_ne hl hx.vpair_lt hy.vpair_lt hp j)

theorem Frame.get_pairDiskn (hf : Frame c T P d) (hlt : P q i < c.DISKS) :
    DiskRef.get d (.pairDiskn q i) = P q i + 1 := by
  rw [DiskRef.get, hf.good.2 q]
  exact hf.wiring.diskn _ hlt

/-- `write_block` of a writer of block `x` on disk `i` of its pair stores its
buffer at the block of `x`. -/
theorem transfer_write (hf : Frame c T P d) (hlt : P q i < c.DISKS) (k : PC) (D : Nat → Nat → Block)
    (v : Block) :
    transfer c (.writeraid x) (.io (.pairDiskn q i) k) d D v =
      (putBlock D (P q i + 1) (vblock c T x.toNat) v, v) := by
  simp [transfer, hf.get_pairDiskn hlt, callBlock, hf.good.1]

theorem Frame.setReading (hf : Frame c T P d) (b : Bool) : Frame c T P (setReading q i b d) :=
  ⟨⟨hf.good.1, fun p => by rw [setReading_disk]; exact hf.good.2 p⟩, hf.destroyed, hf.read,
    hf.write, hf.wiring.of_diskinfo _ rfl⟩

theorem Frame.setWriting (hf : Frame c T P d) (b : Bool) : Frame c T P (setWriting q b d) :=
  ⟨⟨hf.good.1, fun p => by rw [setWriting_disk]; exact hf.good.2 p⟩, hf.destroyed, hf.read,
    hf.write, hf.wiring.of_diskinfo _ rfl⟩

theorem Frame.setValid (hf : Frame c T P d) (e : Nat) : Frame c T P (setValid e false d) :=
  ⟨hf.good, hf.destroyed, hf.read, hf.write, wiring_setValid hf.wiring Bool.false_ne_true.elim⟩

theorem Frame.setValid_of_lt (hf : Frame c T P d) {e : Nat} (he : e < c.DISKS) (b : Bool) :
    Frame c T P (LockLevel.setValid e b d) :=
  ⟨hf.good, hf.destroyed, hf.read, hf.write, wiring_setValid hf.wiring fun _ => he⟩

end Layout

section Entries

variable {c T P} {d : RaidState} {x n : Int}

/-- The entry of a read on a mirrored array: the pair's mutex, or `-1` out of range. -/
theorem readEntry_mirror (hl : MirrorLevel c T) (hf : Frame c T P d) :
    readEntry c x d = if InRange c T x
      then .acq (.lock (.mutex (vpair c T x.toNat))) (.rdLoop (vpair c T x.toNat)) else .done := by
  have hr := outofrange_iff (x := x) hl hf.good.1
  unfold readEntry
  simp only [hf.destroyed, hf.read, hf.good.1, Bool.false_eq_true, if_false, ne_eq,
    not_true_eq_false]
  by_cases hx : InRange c T x
  · have hq := hx.vpair_lt
    rw [if_neg (by rwa [hr, not_not]), if_pos hx]
    rcases hl with rfl | ⟨rfl, -⟩
    · simp only [vpair, npairs, if_true] at hq
      simp [vpair, Nat.not_le.mpr hq]
    · simp only [vpair, npairs, reduceCtorEq, if_false] at hq
      simp [vpair, Nat.ne_of_gt (Nat.zero_lt_of_lt hq)]
  · rw [if_pos (hr.mpr hx), if_neg hx]

theorem writeEntry_mirror (hl : MirrorLevel c T) (hf : Frame c T P d) :
    writeEntry c x d = if InRange c T x
      then .acq (.lock (.mutex (vpair c T x.toNat))) (.wrLoop (vpair c T x.toNat)) else .done := by
  have hr := outofrange_iff (x := x) hl hf.good.1
  unfold writeEntry
  simp only [hf.destroyed, hf.write, hf.good.1, Bool.false_eq_true, if_false, ne_eq,
    not_true_eq_false]
  by_cases hx : InRange c T x
  · have hq := hx.vpair_lt
    rw [if_neg (by rwa [hr, not_not]), if_pos hx]
    rcases hl with rfl | ⟨rfl, -⟩
    · simp only [vpair, npairs, if_true] at hq
      simp [vpair, Nat.not_le.mpr hq]
    · simp only [vpair, npairs, reduceCtorEq, if_false] at hq
      simp [vpair, Nat.ne_of_gt (Nat.zero_lt_of_lt hq)]
  · rw [if_pos (hr.mpr hx), if_neg hx]

theorem failStep_eq (hf : Frame c T P d) :
    failStep c n d = if n - 1 < 0 ∨ (c.DISKS : Int) ≤ n - 1 then (d, .done)
      else (setValid (n - 1).toNat false d, writeraidmeta .done) := by
  simp only [failStep, hf.destroyed, Bool.false_eq_true, if_false]

/-- `if (!pair->valid) return -1; acquire(&diskpair->mutex);`: a repair of disk
index `m` of pair `p` returns, or waits on the pair with its partner. -/
theorem mirrorEntry_cases (hf : Frame c T P d) (hL : PairLayout c T P) {m p : Nat} {k : Int}
    (hq : MirrorPair c T p) (hm : m < c.DISKS)
    (hk : 0 ≤ k ∧ k < 2 → k = 0 ∧ P p 1 = m ∨ k = 1 ∧ P p 0 = m) :
    (mirrorEntry m p k d = .done ∨ mirrorEntry m p k d = .fault) ∨
      ∃ e, RepairPair c T P p m e ∧ mirrorEntry m p k d = .acq (.lock (.mutex p)) (.rpLoop m p e) := by
  unfold mirrorEntry
  dsimp only
  split_ifs with h hv
  · exact .inl (.inl rfl)
  · simp only [hf.good.2 p, Bool.not_eq_true', Bool.not_eq_false] at hv ⊢
    have he := hL.lt_of_valid hf.wiring hq hv
    refine .inr ⟨_, ⟨hq, hm, he, ?_⟩, rfl⟩
    rcases hk h with ⟨rfl, h₁⟩ | ⟨rfl, h₀⟩
    · exact .inr ⟨h₁.symm, rfl⟩
    · exact .inl ⟨h₀.symm, rfl⟩
  · exact .inl (.inr rfl)

/-- The entry of `raidrepair(n)` on a mirrored array: it returns, or waits on
the pair of disk index `n - 1` with the partner it found valid. -/
theorem repairEntry_cases (hf : Frame c T P d) (hl : MirrorLevel c T) (hL : PairLayout c T P) (n : Int) :
    (repairEntry c n d = .done ∨ repairEntry c n d = .fault) ∨
      ∃ q m e, RepairPair c T P q m e ∧ n = m + 1 ∧
        repairEntry c n d = .acq (.lock (.mutex q)) (.rpLoop m q e) := by
  unfold repairEntry
  rw [if_neg (by simp [hf.destroyed])]
  by_cases hr : n - 1 < 0 ∨ (c.DISKS : Int) ≤ n - 1
  · rw [if_pos hr]
    exact .inl (.inl rfl)
  have hn : (n - 1).toNat < c.DISKS := by omega
  rw [if_neg hr]
  dsimp only
  have hnm : n = ((n - 1).toNat : Nat) + 1 := by omega
  generalize (n - 1).toNat = m at hn hnm ⊢
  by_cases hv : (d.raidmeta.diskinfo m).valid = true
  · rw [if_pos hv]
    exact .inl (.inl rfl)
  rw [if_neg hv, hf.good.1]
  rcases hl with rfl | ⟨rfl, -⟩
  · -- RAID1: pair `m / 2`, partner in slot `1 - m % 2`
    have hq : MirrorPair c .RAID1 (m / 2) := .inl ⟨rfl, by omega⟩
    obtain ⟨h₀, h₁⟩ := hL _ hq
    simp only [pairFirst, pairSecond, if_true] at h₀ h₁
    rcases mirrorEntry_cases (k := 1 - (m % 2 : Nat)) hf hL hq hn (fun _ => by omega)
      with h | ⟨e, he, heq⟩
    · exact .inl h
    · exact .inr ⟨_, _, _, he, hnm, heq⟩
  · -- RAID0_1: pair `m % (DISKS / 2)`, partner in slot `1 - m / (DISKS / 2)`
    dsimp only
    split_ifs with h2
    · exact .inl (.inr rfl)
    have hD2 : 0 < c.DISKS / 2 := Nat.pos_of_ne_zero h2
    have hq : MirrorPair c .RAID0_1 (m % (c.DISKS / 2)) := .inr ⟨rfl, Nat.mod_lt _ hD2⟩
    obtain ⟨h₀, h₁⟩ := hL _ hq
    simp only [pairFirst, pairSecond, reduceCtorEq, if_false] at h₀ h₁
    -- the slot is in range only for the disks of the two halves
    rcases mirrorEntry_cases (k := 1 - (m / (c.DISKS / 2) : Nat)) hf hL hq hn (fun _ => by
        have hdm := Nat.div_add_mod m (c.DISKS / 2)
        have hhalf : m / (c.DISKS / 2) = 0 ∨ m / (c.DISKS / 2) = 1 := by omega
        rcases hhalf with h | h <;> simp only [h, mul_zero, mul_one] at hdm ⊢ <;> omega)
      with h | ⟨e, he, heq⟩
    · exact .inl h
    · exact .inr ⟨_, _, _, he, hnm, heq⟩

end Entries

section Steps

variable {c T P} {d : RaidState} {p : PC}

theorem readerAt_next (hl : MirrorLevel c T) (hL : PairLayout c T P) (hf : Frame c T P d) {x : Int}
    (h : ReaderAt c T P x (vpair c T x.toNat) p) :
    ReaderAt c T P x (vpair c T x.toNat) (next (code c) p d).2 ∧ Frame c T P (next (code c) p d).1 := by
  cases h with
  | call =>
    simp only [next, code, readEntry_mirror hl hf]
    split_ifs with hx
    · exact ⟨.lock hx, hf⟩
    · exact ⟨.done, hf⟩
  | done => exact ⟨.done, hf⟩
  | lock hx => exact ⟨.loop hx, hf⟩
  | loop hx =>
    simp only [next, code]
    unfold rdLoopStep
    dsimp only
    split_ifs
    · exact ⟨.dead, hf⟩
    · exact ⟨.sleep hx, hf⟩
    · rcases hs : readslot (d.raidmeta.data.diskpair (vpair c T x.toNat)) d.raidmeta with _ | i
      · exact ⟨.sleep hx, hf⟩
      · -- the slot claimed is on a valid disk, so on one of the real disks
        have hv := valid_of_readslot hs
        rw [hf.good.2] at hv
        exact ⟨.claimed hx (hL.lt_of_valid hf.wiring (hx.mirrorPair hl) hv), hf.setReading true⟩
  | sleep hx => exact ⟨.lock hx, hf⟩
  | dead => exact ⟨.done, hf⟩
  | claimed hx hlt => exact ⟨.diskn hx hlt, hf⟩
  | diskn hx hlt =>
    simp only [next, code]
    rw [hf.get_pairDiskn hlt]
    exact ⟨.acquire hx hlt, hf⟩
  | acquire hx hlt => exact ⟨.read hx hlt, hf⟩
  | read hx => exact ⟨.release hx, hf⟩
  | release hx => exact ⟨.relock hx, hf⟩
  | relock hx => exact ⟨.clear hx, hf⟩
  | clear => exact ⟨.post, hf.setReading false⟩
  | post => exact ⟨.wake, hf⟩
  | wake => exact ⟨.done, hf⟩

theorem writerAt_next (hl : MirrorLevel c T) (hL : PairLayout c T P) (hf : Frame c T P d) {x : Int}
    (h : WriterAt c T P x (vpair c T x.toNat) p) :
    WriterAt c T P x (vpair c T x.toNat) (next (code c) p d).2 ∧ Frame c T P (next (code c) p d).1 := by
  cases h with
  | call =>
    simp only [next, code, writeEntry_mirror hl hf]
    split_ifs with hx
    · exact ⟨.lock hx, hf⟩
    · exact ⟨.done, hf⟩
  | done => exact ⟨.done, hf⟩
  | lock hx => exact ⟨.loop hx, hf⟩
  | loop hx =>
    simp only [next, code]
    unfold wrLoopStep
    dsimp only
    split_ifs
    · exact ⟨.dead, hf⟩
    · exact ⟨.sleep hx, hf⟩
    · exact ⟨.entered hx, hf.setWriting true⟩
  | sleep hx => exact ⟨.lock hx, hf⟩
  | dead => exact ⟨.done, hf⟩
  | entered hx => exact ⟨.lock0 hx, hf⟩
  | lock0 hx => exact ⟨.lock1 hx, hf⟩
  | lock1 hx => exact ⟨.test hx, hf⟩
  | @test i hx =>
    simp only [next, code]
    unfold wrTestStep
    dsimp only
    rw [hf.good.2]
    -- the disk written is valid, so one of the real disks
    rcases Fin.exists_fin_two.mp ⟨i, rfl⟩ with rfl | rfl
    · rw [if_pos (rfl : (0 : Fin 2) = 0)]
      split_ifs with hv
      · exact ⟨.write0 hx (hL.lt_of_valid hf.wiring (hx.mirrorPair hl) hv), hf⟩
      · exact ⟨.test hx, hf⟩
    · rw [if_neg (show (1 : Fin 2) ≠ 0 by decide)]
      split_ifs with hv
      · exact ⟨.write1 hx (hL.lt_of_valid hf.wiring (hx.mirrorPair hl) hv), hf⟩
      · exact ⟨.release0 hx, hf⟩
  | write0 hx => exact ⟨.test hx, hf⟩
  | write1 hx => exact ⟨.release0 hx, hf⟩
  | release0 hx => exact ⟨.release1 hx, hf⟩
  | release1 hx => exact ⟨.relock hx, hf⟩
  | relock hx => exact ⟨.clear hx, hf⟩
  | clear => exact ⟨.post, hf.setWriting false⟩
  | post => exact ⟨.wake, hf⟩
  | wake => exact ⟨.done, hf⟩

theorem metaAt_next (h : MetaAt p) :
    (next (code c) p d).1 = d ∧ (MetaAt (next (code c) p d).2 ∨ (next (code c) p d).2 = .done) := by
  cases h with
  | acqAll i =>
    simp only [next, code]
    split_ifs
    · exact ⟨rfl, .inl (.acqAll (i + 1))⟩
    · exact ⟨rfl, .inl (.image 1)⟩
  | image i =>
    simp only [next, code]
    split_ifs
    · exact ⟨trivial, .inl (.write i)⟩
    · exact ⟨trivial, .inl (.image (i + 1))⟩
    · exact ⟨trivial, .inl (.relAll 0)⟩
  | write i => exact ⟨rfl, .inl (.image (i + 1))⟩
  | relAll i =>
    simp only [next, code]
    split_ifs
    · exact ⟨rfl, .inl (.relAll (i + 1))⟩
    · exact ⟨rfl, .inr rfl⟩

theorem failerAt_next (hf : Frame c T P d) {n : Int} (h : FailerAt n p) :
    FailerAt n (next (code c) p d).2 ∧ Frame c T P (next (code c) p d).1 := by
  cases h with
  | call =>
    simp only [next, code, failStep_eq hf]
    split_ifs
    · exact ⟨.done, hf⟩
    · exact ⟨.store (.acqAll 0), hf.setValid _⟩
  | done => exact ⟨.done, hf⟩
  | store h =>
    obtain ⟨hd, h' | h'⟩ := metaAt_next (c := c) (d := d) h <;> rw [hd]
    · exact ⟨.store h', hf⟩
    · exact ⟨h' ▸ .done, hf⟩

/-- A repair stays at the points of its call; it marks valid only the disk it
has copied to. -/
theorem repairerAt_next (hl : MirrorLevel c T) (hL : PairLayout c T P) (hf : Frame c T P d) {n : Int}
    (h : RepairerAt c T P n p) :
    RepairerAt c T P n (next (code c) p d).2 ∧ Frame c T P (next (code c) p d).1 := by
  cases h with
  | call =>
    simp only [next, code]
    rcases repairEntry_cases hf hl hL n with (h | h) | ⟨q, m, e, hr, hn, h⟩ <;> rw [h]
    · exact ⟨.done, hf⟩
    · exact ⟨.fault, hf⟩
    · exact ⟨.lock hr hn, hf⟩
  | done => exact ⟨.done, hf⟩
  | fault => exact ⟨.fault, hf⟩
  | lock hr hn => exact ⟨.loop hr hn, hf⟩
  | loop hr hn =>
    simp only [next, code]
    unfold rpLoopStep
    dsimp only
    split_ifs
    · exact ⟨.sleep hr hn, hf⟩
    · exact ⟨.entered hr hn, hf.setWriting true⟩
  | sleep hr hn => exact ⟨.lock hr hn, hf⟩
  | entered hr hn => exact ⟨.lock0 hr hn, hf⟩
  | lock0 hr hn => exact ⟨.lock1 hr hn, hf⟩
  | lock1 hr hn => exact ⟨.copy hr (by omega) hn, hf⟩
  | copy hr _ hn =>
    simp only [next, code]
    unfold rpCopyNext
    split_ifs with hb
    · exact ⟨.read hr hb hn, hf⟩
    · exact ⟨.release0 hr hn, hf⟩
  | read hr hb hn => exact ⟨.write hr hb hn, hf⟩
  | write hr hb hn => exact ⟨.copy hr (by omega) hn, hf⟩
  | release0 hr hn => exact ⟨.release1 hr hn, hf⟩
  | release1 hr hn => exact ⟨.valid hr hn, hf⟩
  | valid hr hn => exact ⟨.relock hr hn, hf.setValid_of_lt hr.2.1 true⟩
  | relock hr hn => exact ⟨.clear hr hn, hf⟩
  | clear => exact ⟨.post, hf.setWriting false⟩
  | post => exact ⟨.wake, hf⟩
  | wake => exact ⟨.store (.acqAll 0), hf⟩
  | store h =>
    obtain ⟨hd, h' | h'⟩ := metaAt_next (c := c) (d := d) h <;> rw [hd]
    · exact ⟨.store h', hf⟩
    · exact ⟨h' ▸ .done, hf⟩

theorem threadAt_next (hl : MirrorLevel c T) (hL : PairLayout c T P) (hf : Frame c T P d) {call : PC}
    (h : ThreadAt c T P call p) :
    ThreadAt c T P call (next (code c) p d).2 ∧ Frame c T P (next (code c) p d).1 := by
  cases call
  all_goals simp only [ThreadAt] at h ⊢
  case readraid x => exact readerAt_next hl hL hf h
  case writeraid x => exact writerAt_next hl hL hf h
  case raidfail n => exact failerAt_next hf h
  case raidrepair n => exact repairerAt_next hl hL hf h

theorem WriterAt.not_read {x : Int} {q : Nat} (h : WriterAt c T P x q p) :
    (∀ n k, p ≠ .io (.num n) k) ∧ ∀ e k, p ≠ .io (.diskn e) k := by
  cases h <;> simp

end Steps

section Writers

variable {τ : Type*}

/-- How many disks of its pair a writer has written or passed. -/
def PC.stage : PC → Nat
  | .wrTest _ i | .io (.pairDiskn _ i) _ => i
  | .acq _ k | .rel _ k => k.stage
  | _ => 2

/-- Thread `w` writes block `x` and has set `writing` of its pair. -/
def WriterIn (ds : DataSys τ) (w : τ) (x : Int) : Prop :=
  ds.call w = .writeraid x ∧ (ds.sys.pc w).tag = .pWriter (vpair c T x.toNat)

end Writers

section Runs

variable {τ : Type*} [DecidableEq τ]

/-- The calls whose concurrent runs are linearizable: `readraid`, `writeraid`
and `raidfail`. -/
def PC.served : PC → Prop
  | .readraid _ | .writeraid _ | .raidfail _ => True
  | _ => False

/-- The calls that keep a mirrored array as `setraidtype` sets it up: the served
ones and `raidrepair`. -/
def PC.mirrorCall : PC → Prop
  | .readraid _ | .writeraid _ | .raidfail _ | .raidrepair _ => True
  | _ => False

theorem PC.mirrorCall_of_served {p : PC} (h : p.served) : p.mirrorCall := by
  cases p <;> simp_all [PC.served, PC.mirrorCall]

/-- Along a run of such calls every thread is at a point of its call, the data
keep the frame, and each writer's buffer holds the block it was called with. -/
structure DInv (buf₀ : τ → Block) (ds : DataSys τ) : Prop where
  frame : Frame c T P ds.sys.data
  threads : ∀ t, ThreadAt c T P (ds.call t) (ds.sys.pc t)
  bufs : ∀ t x, ds.call t = .writeraid x → ds.buf t = buf₀ t

variable {c T P} {d : RaidState} {calls : τ → PC} {buf₀ : τ → Block} {ds : DataSys τ}

omit [DecidableEq τ] in
theorem DInv.start (hf : Frame c T P d) (hcalls : ∀ t, (calls t).mirrorCall)
    (h : DStart d calls buf₀ ds) : DInv c T P buf₀ ds := by
  obtain ⟨⟨⟨hd, -⟩, -⟩, hpc, hcall, -, hbuf⟩ := h
  refine ⟨hd ▸ hf, fun t => ?_, fun t x _ => by rw [hbuf]⟩
  rw [hpc, hcall]
  have ht := hcalls t
  cases hc : calls t <;> rw [hc] at ht
  case readraid => exact ReaderAt.call
  case writeraid => exact WriterAt.call
  case raidfail => exact FailerAt.call
  case raidrepair => exact RepairerAt.call
  all_goals exact ht.elim

theorem DInv.step (hl : MirrorLevel c T) (hL : PairLayout c T P) (h : DInv c T P buf₀ ds)
    (t : τ) : DInv c T P buf₀ (DataSys.step c ds t) := by
  rcases step_moves (code c) ds.sys t with hst | hm
  · rw [DataSys.step_eq_of_step t hst]
    exact h
  have ⟨hdata, hpc⟩ := hm.next_eq
  have hnext := threadAt_next hl hL h.frame (h.threads t)
  refine ⟨?_, fun u => ?_, fun u x hu => ?_⟩
  · rw [DataSys.step_sys, hdata]
    exact hnext.2
  · rw [DataSys.step_sys, DataSys.step_call, hpc]
    by_cases hut : u = t
    · subst hut
      rw [Function.update_self]
      exact hnext.1
    · rw [Function.update_of_ne hut]
      exact h.threads u
  · -- a writer's transfer writes from its buffer and leaves it alone
    rw [DataSys.step_call] at hu
    by_cases hut : u = t
    · subst hut
      have hw := h.threads u
      rw [hu] at hw
      obtain ⟨hn, he⟩ := WriterAt.not_read hw
      simp only [DataSys.step, Function.update_self]
      split_ifs
      · rw [transfer_snd hn he]
        exact h.bufs u x hu
      · exact h.bufs u x hu
    · simp only [DataSys.step, Function.update_of_ne hut]
      exact h.bufs u x hu

theorem dInv_of_reachable (hl : MirrorLevel c T) (hL : PairLayout c T P) (hf : Frame c T P d)
    (hcalls : ∀ t, (calls t).mirrorCall) (h : Reachable (DStart d calls buf₀) (DataSys.step c) ds) :
    DInv c T P buf₀ ds :=
  h.invariant (fun _ hs => DInv.start hf hcalls hs) (fun _ t hs => hs.step hl hL t)

theorem pairFirst_lt_pairSecond {i : Nat} (hi : i < npairs c T) : pairFirst T i < pairSecond c T i := by
  unfold npairs pairFirst pairSecond at *
  split_ifs at * <;> omega

/-- An array in a state of a sequential run of a mirrored level is set up for a
concurrent run, with the pairs where `setraidtype` lays them out. -/
theorem setUp_of_mirrorInv (hinv : MirrorInv c T d) (hl : MirrorLevel c T) :
    SetUp c T (fun q => (d.raidmeta.data.diskpair q).disk) d ∧
      PairLayout c T (fun q => (d.raidmeta.data.diskpair q).disk) := by
  have hL : PairLayout c T (fun q => (d.raidmeta.data.diskpair q).disk) :=
    fun q hq => hinv.pairs q ((mirrorPair_iff hl).mp hq)
  refine ⟨⟨⟨hinv.type, fun _ => rfl⟩, fun q hq => ?_, fun q _ => ⟨hinv.quiet.writing q, hinv.quiet.reading q⟩,
    fun _ => ⟨hinv.quiet.writecount, hinv.quiet.repairing⟩⟩, hL⟩
  obtain ⟨h₀, h₁⟩ := hinv.pairs q ((mirrorPair_iff hl).mp hq)
  rw [h₀, h₁]
  exact pairFirst_lt_pairSecond ((mirrorPair_iff hl).mp hq)

end Runs

end Xv6Raid.LockLevel
