import Xv6Raid.Spec.MirrorCalls

/-!
What the disks of a RAID1 or RAID0_1 array hold for a reader. Pair `i` is made
of the disk entries `pairFirst i` and `pairSecond i`, and virtual block `x` is
block `vblock x` of pair `vpair x`; a read takes it from the first valid disk
of the pair. `MirrorInv` keeps the two disks of a pair equal on every data
block while both are valid, so that a pair shows the same blocks through
either of its valid disks: a write changes the view at its own block only,
and a failure or a repair changes it nowhere on a pair that keeps a valid
disk.
-/

namespace Xv6Raid

open RaidState

variable (c : Config)

section Layout

/-- The mirrored levels whose pair arithmetic is consistent: RAID1 on any
array, RAID0_1 on an even one. -/
def MirrorLevel (t : RAID_TYPE) : Prop :=
  t = .RAID1 ∨ t = .RAID0_1 ∧ c.DISKS % 2 = 0

/-- The number of pairs `setraidtype` sets up. -/
def npairs (t : RAID_TYPE) : Nat :=
  if t = .RAID1 then (c.DISKS + 1) / 2 else c.DISKS / 2

/-- The disk entries of pair `i`: `(2i, 2i + 1)` for RAID1, `(i, i + DISKS / 2)`
for RAID0_1. -/
def pairFirst (t : RAID_TYPE) (i : Nat) : Nat :=
  if t = .RAID1 then 2 * i else i

def pairSecond (t : RAID_TYPE) (i : Nat) : Nat :=
  if t = .RAID1 then 2 * i + 1 else i + c.DISKS / 2

/-- The pair of virtual block `x`, and the block of it on both disks. -/
def vpair (t : RAID_TYPE) (x : Nat) : Nat :=
  if t = .RAID1 then x / diskblockn else x % (c.DISKS / 2)

def vblock (t : RAID_TYPE) (x : Nat) : Nat :=
  if t = .RAID1 then x % diskblockn else x / (c.DISKS / 2)

def pairOfDisk (t : RAID_TYPE) (d : Nat) : Nat :=
  if t = .RAID1 then d / 2 else d % (c.DISKS / 2)

def partner (t : RAID_TYPE) (d : Nat) : Nat :=
  if d = pairFirst t (pairOfDisk c t d) then pairSecond c t (pairOfDisk c t d)
  else pairFirst t (pairOfDisk c t d)

variable {c} {t : RAID_TYPE} {i d x y : Nat}

theorem pairFirst_lt (hi : i < npairs c t) : pairFirst t i < c.DISKS := by
  unfold npairs pairFirst at *
  split_ifs at * <;> omega

theorem pairSecond_le (hi : i < npairs c t) : pairSecond c t i ≤ c.DISKS := by
  unfold npairs pairSecond at *
  split_ifs at * <;> omega

theorem pairFirst_ne_pairSecond (hi : i < npairs c t) : pairFirst t i ≠ pairSecond c t i := by
  unfold npairs pairFirst pairSecond at *
  split_ifs at * <;> omega

theorem pairOfDisk_pairFirst (hi : i < npairs c t) : pairOfDisk c t (pairFirst t i) = i := by
  unfold npairs pairFirst pairOfDisk at *
  split_ifs at *
  · omega
  · exact Nat.mod_eq_of_lt hi

theorem pairOfDisk_pairSecond (hi : i < npairs c t) : pairOfDisk c t (pairSecond c t i) = i := by
  unfold npairs pairSecond pairOfDisk at *
  split_ifs at *
  · omega
  · rw [Nat.add_mod_right, Nat.mod_eq_of_lt hi]

/-- Every disk of the array lies in one of the pairs, as one of its two disks. -/
theorem pairOfDisk_spec (hl : MirrorLevel c t) (hd : d < c.DISKS) :
    pairOfDisk c t d < npairs c t ∧
      (d = pairFirst t (pairOfDisk c t d) ∨ d = pairSecond c t (pairOfDisk c t d)) := by
  rcases hl with rfl | ⟨rfl, heven⟩
  · simp only [pairOfDisk, npairs, pairFirst, pairSecond, if_true]
    omega
  · have hh : 0 < c.DISKS / 2 := by omega
    simp only [pairOfDisk, npairs, pairFirst, pairSecond, reduceCtorEq, if_false]
    refine ⟨Nat.mod_lt d hh, ?_⟩
    by_cases hlow : d < c.DISKS / 2
    · exact .inl (Nat.mod_eq_of_lt hlow).symm
    · have hmod : d % (c.DISKS / 2) = d - c.DISKS / 2 := by
        rw [Nat.mod_eq_sub_mod (by omega), Nat.mod_eq_of_lt (by omega)]
      right
      omega

theorem partner_spec (hl : MirrorLevel c t) (hd : d < c.DISKS) :
    (d = pairFirst t (pairOfDisk c t d) ∧ partner c t d = pairSecond c t (pairOfDisk c t d)) ∨
      (d = pairSecond c t (pairOfDisk c t d) ∧ partner c t d = pairFirst t (pairOfDisk c t d)) := by
  obtain ⟨-, hmem⟩ := pairOfDisk_spec hl hd
  unfold partner
  split_ifs with hf
  · exact .inl ⟨hf, rfl⟩
  · exact .inr ⟨hmem.resolve_left hf, rfl⟩

theorem partner_ne (hl : MirrorLevel c t) (hd : d < c.DISKS) : partner c t d ≠ d := by
  have hp := (pairOfDisk_spec hl hd).1
  rcases partner_spec hl hd with ⟨h₁, h₂⟩ | ⟨h₁, h₂⟩
  · rw [h₂]
    nth_rewrite 2 [h₁]
    exact (pairFirst_ne_pairSecond hp).symm
  · rw [h₂]
    nth_rewrite 2 [h₁]
    exact pairFirst_ne_pairSecond hp

theorem partner_le (hl : MirrorLevel c t) (hd : d < c.DISKS) : partner c t d ≤ c.DISKS := by
  have hp := (pairOfDisk_spec hl hd).1
  rcases partner_spec hl hd with ⟨-, h⟩ | ⟨-, h⟩
  · exact h ▸ pairSecond_le hp
  · exact h ▸ Nat.le_of_lt (pairFirst_lt hp)

theorem vpair_lt (hx : x < diskblockn * npairs c t) : vpair c t x < npairs c t := by
  unfold vpair npairs at *
  split_ifs at *
  · exact Nat.div_lt_of_lt_mul hx
  · exact Nat.mod_lt x (Nat.pos_of_mul_pos_left (Nat.zero_lt_of_lt hx))

theorem vblock_lt (hx : x < diskblockn * npairs c t) : vblock c t x < diskblockn := by
  unfold vblock npairs at *
  split_ifs at *
  · exact Nat.mod_lt x (by decide)
  · exact Nat.div_lt_of_lt_mul (by rwa [Nat.mul_comm])

theorem eq_of_vpair_vblock (hp : vpair c t x = vpair c t y) (hb : vblock c t x = vblock c t y) :
    x = y := by
  unfold vpair vblock at *
  split_ifs at *
  · rw [← Nat.div_add_mod x diskblockn, ← Nat.div_add_mod y diskblockn, hp, hb]
  · rw [← Nat.div_add_mod x (c.DISKS / 2), ← Nat.div_add_mod y (c.DISKS / 2), hp, hb]

theorem raidblockn_mirror {m : RAIDMeta} (hl : MirrorLevel c t) (ht : m.type = t) :
    raidblockn c m = diskblockn * npairs c t := by
  rcases hl with rfl | ⟨rfl, -⟩ <;> simp [raidblockn, npairs, ht]

theorem pair_disjoint {j : Nat} (hi : i < npairs c t) (hj : j < npairs c t) (hji : j ≠ i) :
    pairFirst t j ≠ pairFirst t i ∧ pairFirst t j ≠ pairSecond c t i ∧
      pairSecond c t j ≠ pairFirst t i ∧ pairSecond c t j ≠ pairSecond c t i := by
  refine ⟨fun he => hji ?_, fun he => hji ?_, fun he => hji ?_, fun he => hji ?_⟩
  · rw [← pairOfDisk_pairFirst hj, he, pairOfDisk_pairFirst hi]
  · rw [← pairOfDisk_pairFirst hj, he, pairOfDisk_pairSecond hi]
  · rw [← pairOfDisk_pairSecond hj, he, pairOfDisk_pairFirst hi]
  · rw [← pairOfDisk_pairSecond hj, he, pairOfDisk_pairSecond hi]

end Layout

def alive (t : RAID_TYPE) (s : RaidState) (i : Nat) : Bool :=
  (s.raidmeta.diskinfo (pairFirst t i)).valid || (s.raidmeta.diskinfo (pairSecond c t i)).valid

/-- What a read of virtual block `x` returns: its block on the first valid disk
of its pair. -/
def mirrorView (t : RAID_TYPE) (s : RaidState) (x : Nat) : Block :=
  if (s.raidmeta.diskinfo (pairFirst t (vpair c t x))).valid then
    s.disks (pairFirst t (vpair c t x) + 1) (vblock c t x)
  else s.disks (pairSecond c t (vpair c t x) + 1) (vblock c t x)

/-- What every state of a sequential run of the mirrored level `t` keeps. -/
structure MirrorInv (t : RAID_TYPE) (s : RaidState) : Prop where
  quiet : Quiet s.raidmeta
  wiring : Wiring c s.raidmeta
  type : s.raidmeta.type = t
  destroyed : s.raidmeta.isDestroyed = false
  pairs : ∀ i < npairs c t, (s.raidmeta.data.diskpair i).disk 0 = pairFirst t i ∧
    (s.raidmeta.data.diskpair i).disk 1 = pairSecond c t i
  mirror : ∀ i < npairs c t, (s.raidmeta.diskinfo (pairFirst t i)).valid = true →
    (s.raidmeta.diskinfo (pairSecond c t i)).valid = true →
    ∀ b < diskblockn, s.disks (pairFirst t i + 1) b = s.disks (pairSecond c t i + 1) b

section Inv

variable {c} {t : RAID_TYPE} {s : RaidState} {i x : Nat}

theorem MirrorInv.congr {u : RaidState} (h : MirrorInv c t s) (hm : u.raidmeta = s.raidmeta)
    (hX : DataEq u.disks s.disks) : MirrorInv c t u := by
  refine ⟨hm ▸ h.quiet, hm ▸ h.wiring, hm ▸ h.type, hm ▸ h.destroyed, hm ▸ h.pairs, ?_⟩
  intro i hi hv₁ hv₂ b hb
  rw [hX _ b hb, hX _ b hb]
  exact h.mirror i hi (hm ▸ hv₁) (hm ▸ hv₂) b hb

theorem MirrorInv.lt_of_valid (h : MirrorInv c t s) {e : Nat} (he : e ≤ c.DISKS)
    (hv : (s.raidmeta.diskinfo e).valid = true) : e < c.DISKS := by
  rcases Nat.lt_or_ge e c.DISKS with hlt | hge
  · exact hlt
  · have heq : e = c.DISKS := Nat.le_antisymm he hge
    rw [heq, h.wiring.spare] at hv
    contradiction

theorem MirrorInv.pairWired (h : MirrorInv c t s) (hi : i < npairs c t) :
    PairWired c s (s.raidmeta.data.diskpair i) := by
  have hle : ∀ k, (s.raidmeta.data.diskpair i).disk k ≤ c.DISKS := by
    refine Fin.forall_fin_two.mpr ⟨?_, ?_⟩
    · rw [(h.pairs i hi).1]
      exact Nat.le_of_lt (pairFirst_lt hi)
    · rw [(h.pairs i hi).2]
      exact pairSecond_le hi
  intro k hv
  have hlt := h.lt_of_valid (hle k) hv
  exact ⟨hlt, h.wiring.diskn _ hlt⟩

/-- A valid disk of a pair holds what a read of the pair returns. -/
theorem MirrorInv.mirrorView_eq (h : MirrorInv c t s) (hx : x < diskblockn * npairs c t) {m : Nat}
    (hm : m = pairFirst t (vpair c t x) ∨ m = pairSecond c t (vpair c t x))
    (hv : (s.raidmeta.diskinfo m).valid = true) :
    mirrorView c t s x = s.disks (m + 1) (vblock c t x) := by
  unfold mirrorView
  split_ifs with hf
  · rcases hm with rfl | rfl
    · rfl
    · exact h.mirror _ (vpair_lt hx) hf hv _ (vblock_lt hx)
  · rcases hm with rfl | rfl
    · rw [hv] at hf
      contradiction
    · rfl

/-- Two valid disks that are partners hold the same data blocks. -/
theorem MirrorInv.partner_mirror (h : MirrorInv c t s) (hl : MirrorLevel c t) {d : Nat}
    (hd : d < c.DISKS) (hv : (s.raidmeta.diskinfo d).valid = true)
    (hvp : (s.raidmeta.diskinfo (partner c t d)).valid = true) :
    ∀ b < diskblockn, s.disks (d + 1) b = s.disks (partner c t d + 1) b := by
  intro b hb
  obtain ⟨hp, -⟩ := pairOfDisk_spec hl hd
  rcases partner_spec hl hd with ⟨h₁, h₂⟩ | ⟨h₁, h₂⟩
  · have hm := h.mirror _ hp (by rw [← h₁]; exact hv) (by rw [← h₂]; exact hvp) b hb
    rwa [← h₁, ← h₂] at hm
  · have hm := h.mirror _ hp (by rw [← h₂]; exact hvp) (by rw [← h₁]; exact hv) b hb
    rw [← h₁, ← h₂] at hm
    exact hm.symm

end Inv

section Steps

variable {c} {t : RAID_TYPE} {s : RaidState}

theorem Quiet.initpairs (h : Quiet s.raidmeta) (n : Nat) (first second : Nat → Nat) :
    Quiet (initpairs n first second s).raidmeta := by
  refine ⟨h.disklock, fun p => ?_, fun p => ?_, fun p k => ?_, h.clusterlock, h.repairlock,
    h.writecount, h.repairing⟩ <;> by_cases hp : p < n <;> simp [Xv6Raid.initpairs, hp, h.mutex p,
      h.writing p, h.reading p]

/-- `setraidtype` of a mirrored level pairs the disks by its layout and stores
the structure. -/
theorem setraidtype_mirror {code : Int} (hcode : RAID_TYPE.ofInt code = some t)
    (hl : MirrorLevel c t) (hfree : ∀ i < c.DISKS, (s.raidmeta.diskinfo i).lock = ⟨false⟩) :
    setraidtype c code s = .ok (0,
      let s' := initpairs (npairs c t) (pairFirst t) (pairSecond c t) (settype t s)
      { s' with disks := metaDisks c s' }) := by
  have hfin : (do
      let s ← writeraidmeta c (initpairs (npairs c t) (pairFirst t) (pairSecond c t) (settype t s))
      pure (0, s) : Except Fault (UInt64 × RaidState)) =
      .ok (0, { initpairs (npairs c t) (pairFirst t) (pairSecond c t) (settype t s) with
        disks := metaDisks c (initpairs (npairs c t) (pairFirst t) (pairSecond c t) (settype t s)) }) := by
    rw [writeraidmeta_free c (by simpa using hfree)]
    rfl
  rw [setraidtype, hcode]
  rcases hl with rfl | ⟨rfl, -⟩
  · exact hfin
  · exact hfin

/-- `setraidtype` of a mirrored level after the first boot returns `0`, sets up
the invariant, and every pair is alive and reads as zero. -/
theorem mirrorInv_setraidtype {s₀ : RaidState} {code : Int} {r : UInt64} (hf : Fresh c s₀)
    (hcode : RAID_TYPE.ofInt code = some t) (hl : MirrorLevel c t)
    (h : setraidtype c code s₀ = .ok (r, s)) :
    r = 0 ∧ MirrorInv c t s ∧ ∀ x < diskblockn * npairs c t,
      alive c t s (vpair c t x) = true ∧ mirrorView c t s x = 0 := by
  rw [setraidtype_mirror hcode hl (fun i _ => hf.quiet.disklock i)] at h
  obtain ⟨rfl, rfl⟩ := Prod.mk.inj (Except.ok.inj h)
  set s₁ := initpairs (npairs c t) (pairFirst t) (pairSecond c t) (settype t s₀)
  have hzero : ∀ e < c.DISKS, ∀ b < diskblockn, metaDisks c s₁ (e + 1) b = 0 := by
    intro e he b hb
    rw [metaDisks_of_ne c (Nat.ne_of_lt hb)]
    exact hf.zero (e + 1) (by omega) (by omega) b hb
  have hq := hf.quiet
  have hq₁ : Quiet (settype t s₀).raidmeta := ⟨hq.disklock, hq.mutex, hq.writing, hq.reading,
    hq.clusterlock, hq.repairlock, hq.writecount, hq.repairing⟩
  have hinv : MirrorInv c t { s₁ with disks := metaDisks c s₁ } := by
    refine ⟨hq₁.initpairs _ _ _, hf.wiring.of_diskinfo c rfl, rfl, rfl, ?_, ?_⟩
    · intro i hi
      simp [s₁, Xv6Raid.initpairs, hi]
    · intro i hi _ hv₂ b hb
      have hsp : pairSecond c t i ≠ c.DISKS := by
        intro he
        rw [he] at hv₂
        simp [s₁, hf.wiring.spare] at hv₂
      have hlt : pairSecond c t i < c.DISKS := Nat.lt_of_le_of_ne (pairSecond_le hi) hsp
      change metaDisks c s₁ (pairFirst t i + 1) b = metaDisks c s₁ (pairSecond c t i + 1) b
      rw [hzero _ (pairFirst_lt hi) b hb, hzero _ hlt b hb]
  refine ⟨rfl, hinv, fun x hx => ?_⟩
  have hp := vpair_lt hx
  have hv : (s₁.raidmeta.diskinfo (pairFirst t (vpair c t x))).valid = true := by
    simpa [s₁] using hf.valid _ (pairFirst_lt hp)
  refine ⟨by simp [alive, hv], ?_⟩
  rw [hinv.mirrorView_eq hx (.inl rfl) hv]
  exact hzero _ (pairFirst_lt hp) _ (vblock_lt hx)

/-- A read in range returns `-1` when both disks of its pair are invalid, and
`0` with the pair's block otherwise; the state never changes. -/
theorem mirror_read (h : MirrorInv c t s) (hl : MirrorLevel c t) {x : Int} (data : Block)
    (h0 : 0 ≤ x) (hx : x < raidblockn c s.raidmeta) :
    readtable c t x data s = if alive c t s (vpair c t x.toNat)
      then .ok (0, mirrorView c t s x.toNat, s) else .ok (-1, data, s) := by
  have hxn : x.toNat < diskblockn * npairs c t := by
    rw [raidblockn_mirror hl h.type] at hx
    omega
  have hp := vpair_lt hxn
  have hread : readtable c t x data s =
      readdiskpair c (vpair c t x.toNat) (vblock c t x.toNat) data s := by
    rcases hl with rfl | ⟨rfl, -⟩
    · exact raid1read_eq c data h.type h0 hx
    · exact raid0_1read_eq c data h.type h0 hx
  rw [hread, readdiskpair_spec c data h.quiet (h.pairWired hp) (Nat.le_of_lt (vblock_lt hxn))]
  unfold alive mirrorView pairRead
  rw [(h.pairs _ hp).1, (h.pairs _ hp).2]
  cases (s.raidmeta.diskinfo (pairFirst t (vpair c t x.toNat))).valid <;>
    cases (s.raidmeta.diskinfo (pairSecond c t (vpair c t x.toNat))).valid <;> rfl

theorem mirror_read_state (h : MirrorInv c t s) (hl : MirrorLevel c t) {x : Int} {data v : Block}
    {r : UInt64} {s' : RaidState} (hr : readtable c t x data s = .ok (r, v, s')) : s' = s := by
  by_cases hx : 0 ≤ x ∧ x < raidblockn c s.raidmeta
  · rw [mirror_read h hl data hx.1 hx.2] at hr
    split_ifs at hr <;>
    · simp only [Except.ok.injEq, Prod.mk.injEq] at hr
      exact hr.2.2.symm
  · have hout : outofrange c x s := by simp only [outofrange]; omega
    rcases hl with rfl | ⟨rfl, -⟩
    · simp [readtable, raid1read, h.type, hout] at hr
      exact hr.2.2.symm
    · simp [readtable, raid0_1read, h.type, hout] at hr
      exact hr.2.2.symm

theorem mirror_write_out (h : MirrorInv c t s) (hl : MirrorLevel c t) {x : Int} (v : Block)
    (hx : ¬ (0 ≤ x ∧ x < raidblockn c s.raidmeta)) : writetable c t x v s = .ok (-1, s) := by
  have hout : outofrange c x s := by simp only [outofrange]; omega
  rcases hl with rfl | ⟨rfl, -⟩
  · simp [writetable, raid1write, h.type, hout]
  · simp [writetable, raid0_1write, h.type, hout]

/-- A write in range returns `-1` when both disks of its pair are invalid;
otherwise it writes the block to every valid disk of the pair and returns `0`. -/
theorem mirror_write_eq (h : MirrorInv c t s) (hl : MirrorLevel c t) {x : Int} (v : Block)
    (h0 : 0 ≤ x) (hx : x < raidblockn c s.raidmeta) :
    writetable c t x v s = if alive c t s (vpair c t x.toNat) then
      .ok (0, pairWrite s (s.raidmeta.data.diskpair (vpair c t x.toNat)) (vblock c t x.toNat) v)
    else .ok (-1, s) := by
  have hxn : x.toNat < diskblockn * npairs c t := by
    rw [raidblockn_mirror hl h.type] at hx
    omega
  have hp := vpair_lt hxn
  have hwrite : writetable c t x v s =
      writediskpair c (vpair c t x.toNat) (vblock c t x.toNat) v s := by
    rcases hl with rfl | ⟨rfl, -⟩
    · exact raid1write_eq c v h.type h0 hx
    · exact raid0_1write_eq c v h.type h0 hx
  have hne : (s.raidmeta.data.diskpair (vpair c t x.toNat)).disk 0 ≠
      (s.raidmeta.data.diskpair (vpair c t x.toNat)).disk 1 := by
    rw [(h.pairs _ hp).1, (h.pairs _ hp).2]
    exact pairFirst_ne_pairSecond hp
  rw [hwrite, writediskpair_spec c v h.quiet (h.pairWired hp) hne (Nat.le_of_lt (vblock_lt hxn))]
  unfold alive
  rw [(h.pairs _ hp).1, (h.pairs _ hp).2]
  cases (s.raidmeta.diskinfo (pairFirst t (vpair c t x.toNat))).valid <;>
    cases (s.raidmeta.diskinfo (pairSecond c t (vpair c t x.toNat))).valid <;> rfl

theorem mirrorInv_pairWrite (h : MirrorInv c t s) {i b : Nat} (hi : i < npairs c t) (v : Block) :
    MirrorInv c t (pairWrite s (s.raidmeta.data.diskpair i) b v) := by
  have hm : (pairWrite s (s.raidmeta.data.diskpair i) b v).raidmeta = s.raidmeta :=
    pairWrite_raidmeta _ v
  refine ⟨by rw [hm]; exact h.quiet, by rw [hm]; exact h.wiring, by rw [hm]; exact h.type,
    by rw [hm]; exact h.destroyed, by rw [hm]; exact h.pairs, ?_⟩
  intro j hj hv₁ hv₂ b' hb'
  rw [hm] at hv₁ hv₂
  rw [pairWrite_disks, pairWrite_disks, (h.pairs i hi).1, (h.pairs i hi).2]
  by_cases hji : j = i
  · subst hji
    by_cases hb : b' = b
    · simp [hb, hv₁, hv₂]
    · simp only [hb, false_and, if_false]
      exact h.mirror j hj hv₁ hv₂ b' hb'
  · obtain ⟨h₁, h₂, h₃, h₄⟩ := pair_disjoint hi hj hji
    simp only [Nat.add_right_cancel_iff, h₁, h₂, h₃, h₄, false_and, or_self, and_false, if_false]
    exact h.mirror j hj hv₁ hv₂ b' hb'

/-- A write to an alive pair changes the view at its own block, to the block
written, and nowhere else. -/
theorem mirrorView_pairWrite (h : MirrorInv c t s) {x y : Nat} (hx : x < diskblockn * npairs c t)
    (hy : y < diskblockn * npairs c t) (hal : alive c t s (vpair c t x) = true) (v : Block) :
    mirrorView c t (pairWrite s (s.raidmeta.data.diskpair (vpair c t x)) (vblock c t x) v) y =
      if y = x then v else mirrorView c t s y := by
  have hpx := vpair_lt hx
  have hpy := vpair_lt hy
  unfold mirrorView
  rw [pairWrite_raidmeta, pairWrite_disks, pairWrite_disks, (h.pairs _ hpx).1, (h.pairs _ hpx).2]
  by_cases hyx : y = x
  · subst hyx
    by_cases hv₁ : (s.raidmeta.diskinfo (pairFirst t (vpair c t y))).valid
    · simp [hv₁]
    · have hv₂ : (s.raidmeta.diskinfo (pairSecond c t (vpair c t y))).valid = true := by
        simpa [alive, hv₁] using hal
      simp [hv₁, hv₂]
  · rw [if_neg hyx]
    by_cases hpp : vpair c t y = vpair c t x
    · have hb : vblock c t y ≠ vblock c t x := fun hb => hyx (eq_of_vpair_vblock hpp hb)
      simp [hb]
    · obtain ⟨h₁, h₂, h₃, h₄⟩ := pair_disjoint hpx hpy hpp
      simp [h₁, h₂, h₃, h₄]

theorem exists_valid_of_alive {i : Nat} (hal : alive c t s i = true) :
    ∃ m, (m = pairFirst t i ∨ m = pairSecond c t i) ∧ (s.raidmeta.diskinfo m).valid = true := by
  unfold alive at hal
  rcases Bool.or_eq_true_iff.mp hal with hv | hv
  · exact ⟨_, .inl rfl, hv⟩
  · exact ⟨_, .inr rfl, hv⟩

/-- `raidfail` never faults; it keeps the invariant, and a pair that still has a
valid disk reads as before. -/
theorem mirror_fail (h : MirrorInv c t s) (n : Int) :
    ∃ r s', raidfail c n s = .ok (r, s') ∧ MirrorInv c t s' ∧
      ∀ x < diskblockn * npairs c t, alive c t s' (vpair c t x) = true →
        alive c t s (vpair c t x) = true ∧ mirrorView c t s' x = mirrorView c t s x := by
  by_cases hn : 1 ≤ n ∧ n ≤ c.DISKS
  · refine ⟨0, _, raidfail_ok c h.destroyed (fun i _ => h.quiet.disklock i) hn.1 hn.2, ?_⟩
    set d := (n - 1).toNat
    set u := s.setDiskinfo d { s.raidmeta.diskinfo d with valid := false }
    have hd : d < c.DISKS := by omega
    have hval : ∀ e, (u.raidmeta.diskinfo e).valid = true →
        e ≠ d ∧ (s.raidmeta.diskinfo e).valid = true := by
      intro e he
      by_cases hed : e = d
      · subst hed
        simp [u] at he
      · simpa [u, hed] using he
    have hu : MirrorInv c t u := by
      refine ⟨h.quiet.setDiskinfo (h.quiet.disklock d), ⟨fun i hi => ?_, ?_⟩, h.type, h.destroyed,
        h.pairs, fun i hi hv₁ hv₂ b hb => h.mirror i hi (hval _ hv₁).2 (hval _ hv₂).2 b hb⟩
      · by_cases hid : i = d
        · subst hid
          simpa [u] using h.wiring.diskn _ hi
        · simpa [u, hid] using h.wiring.diskn i hi
      · simpa [u, Nat.ne_of_gt hd] using h.wiring.spare
    have hu' : MirrorInv c t { u with disks := metaDisks c u } := hu.congr rfl (dataEq_metaDisks c u)
    refine ⟨hu', fun x hx hal => ?_⟩
    obtain ⟨m, hm, hv⟩ := exists_valid_of_alive hal
    have hvs := (hval m hv).2
    refine ⟨?_, ?_⟩
    · rcases hm with rfl | rfl <;> simp [alive, hvs]
    · rw [hu'.mirrorView_eq hx hm hv, h.mirrorView_eq hx hm hvs]
      exact dataEq_metaDisks c u _ _ (vblock_lt hx)
  · exact ⟨-1, s, raidfail_out c h.destroyed hn, h, fun _ _ hal => ⟨hal, rfl⟩⟩

/-- `raidrepair` of an invalid disk of a mirrored level finds its partner, the
other disk of its pair, and repairs from it only when the partner is valid. -/
theorem raidrepair_mirror_eq (h : MirrorInv c t s) (hl : MirrorLevel c t) {d : Nat}
    (hd : d < c.DISKS) (hv : (s.raidmeta.diskinfo d).valid = false) :
    raidrepair c (d + 1) s = if (s.raidmeta.diskinfo (partner c t d)).valid then (do
      let s ← mirrorrepair c (pairOfDisk c t d) (partner c t d) d s
      let s ← writeraidmeta c s
      pure (0, s)) else .ok (-1, s) := by
  have hrange : ¬ ((d : Int) + 1 - 1 < 0 ∨ (c.DISKS : Int) ≤ d + 1 - 1) := by omega
  have hd' : ((d : Int) + 1 - 1).toNat = d := by omega
  obtain ⟨hp, hmem⟩ := pairOfDisk_spec hl hd
  have hpart := partner_spec hl hd
  have hpairs := h.pairs _ hp
  rcases hl with rfl | ⟨rfl, heven⟩
  · -- RAID1: the partner is `disk[1 - d % 2]` of pair `d / 2`
    have hp' : d / 2 < (c.DISKS + 1) / 2 := by simpa [npairs, pairOfDisk] using hp
    have hk : pairdiskAt (s.raidmeta.data.diskpair (d / 2)) (1 - ((d % 2 : Nat) : Int)) =
        .ok (partner c .RAID1 d) := by
      simp only [pairOfDisk, if_true] at hpairs hpart
      rcases hpart with ⟨h₁, h₂⟩ | ⟨h₁, h₂⟩
      · have h2 : d % 2 = 0 := by simp only [pairFirst, if_true] at h₁; omega
        rw [h2, h₂, ← hpairs.2]
        rfl
      · have h2 : d % 2 = 1 := by simp only [pairSecond, if_true] at h₁; omega
        rw [h2, h₂, ← hpairs.1]
        rfl
    simp only [raidrepair, h.destroyed, hrange, hd', hv, h.type, Bool.false_eq_true, if_false,
      diskpairAt, hp', if_true, Except.ok_bind, hk]
    cases (s.raidmeta.diskinfo (partner c RAID_TYPE.RAID1 d)).valid <;> rfl
  · -- RAID0_1: the partner is `disk[1 - d / (DISKS / 2)]` of pair `d % (DISKS / 2)`
    have hh : c.DISKS / 2 ≠ 0 := by omega
    have hp' : d % (c.DISKS / 2) < c.DISKS / 2 := Nat.mod_lt d (Nat.pos_of_ne_zero hh)
    have hk : pairdiskAt (s.raidmeta.data.diskpair (d % (c.DISKS / 2))) (1 - ((d / (c.DISKS / 2) : Nat) : Int)) =
        .ok (partner c .RAID0_1 d) := by
      simp only [pairOfDisk, reduceCtorEq, if_false] at hpairs hpart
      rcases hpart with ⟨h₁, h₂⟩ | ⟨h₁, h₂⟩
      · have hq : d / (c.DISKS / 2) = 0 := by
          simp only [pairFirst, reduceCtorEq, if_false] at h₁
          rw [Nat.div_eq_zero_iff_lt (Nat.pos_of_ne_zero hh)]
          rw [h₁]
          exact hp'
        rw [hq, h₂, ← hpairs.2]
        rfl
      · have hq : d / (c.DISKS / 2) = 1 := by
          simp only [pairSecond, reduceCtorEq, if_false] at h₁
          rw [h₁, Nat.add_div_right _ (Nat.pos_of_ne_zero hh), Nat.div_eq_of_lt hp']
        rw [hq, h₂, ← hpairs.1]
        rfl
    simp only [raidrepair, h.destroyed, hrange, hd', hv, h.type, Bool.false_eq_true, if_false,
      cmod, cdiv, hh, diskpairAt, hp', if_true, Except.ok_bind, hk]
    cases (s.raidmeta.diskinfo (partner c RAID_TYPE.RAID0_1 d)).valid <;> rfl

theorem ne_of_pairOfDisk_ne {i d m : Nat} (hi : i < npairs c t)
    (hm : m = pairFirst t i ∨ m = pairSecond c t i) (hid : pairOfDisk c t d ≠ i) : m ≠ d := by
  intro hmd
  apply hid
  rw [← hmd]
  rcases hm with rfl | rfl
  · exact pairOfDisk_pairFirst hi
  · exact pairOfDisk_pairSecond hi

theorem alive_of_valid {i m : Nat} (hm : m = pairFirst t i ∨ m = pairSecond c t i)
    (hv : (s.raidmeta.diskinfo m).valid = true) : alive c t s i = true := by
  rcases hm with rfl | rfl <;> simp [alive, hv]

/-- The repair of an invalid disk whose partner is valid returns `0`: the disk
becomes valid with a copy of its partner, and every pair reads as before. -/
theorem mirror_repair_copy (h : MirrorInv c t s) (hl : MirrorLevel c t) {d : Nat}
    (hd : d < c.DISKS) (hv : (s.raidmeta.diskinfo d).valid = false)
    (hpv : (s.raidmeta.diskinfo (partner c t d)).valid = true) :
    ∃ s', raidrepair c (d + 1) s = .ok (0, s') ∧ MirrorInv c t s' ∧
      (s'.raidmeta.diskinfo d).valid = true ∧
      ∀ x < diskblockn * npairs c t, alive c t s' (vpair c t x) = true →
        alive c t s (vpair c t x) = true ∧ mirrorView c t s' x = mirrorView c t s x := by
  obtain ⟨hp, -⟩ := pairOfDisk_spec hl hd
  have hpne := partner_ne hl hd
  have hpD : partner c t d < c.DISKS := h.lt_of_valid (partner_le hl hd) hpv
  have hpair : (s.raidmeta.data.diskpair (pairOfDisk c t d)).disk 0 ≠
      (s.raidmeta.data.diskpair (pairOfDisk c t d)).disk 1 := by
    rw [(h.pairs _ hp).1, (h.pairs _ hp).2]
    exact pairFirst_ne_pairSecond hp
  -- the state the copy leaves, before the structure is stored
  set X : Nat → Nat → Block := fun e b =>
    if e = d + 1 ∧ b ≤ diskblockn then s.disks (partner c t d + 1) b else s.disks e b
  set u : RaidState := { s.setDiskinfo d { s.raidmeta.diskinfo d with valid := true } with disks := X }
  have hval : ∀ e ≠ d, (u.raidmeta.diskinfo e).valid = (s.raidmeta.diskinfo e).valid := by
    intro e he
    simp [u, he]
  have hdisk : ∀ e ≠ d, ∀ b, u.disks (e + 1) b = s.disks (e + 1) b := by
    intro e he b
    simp [u, X, he]
  have hfree : ∀ i < c.DISKS, (u.raidmeta.diskinfo i).lock = ⟨false⟩ := by
    intro i _
    by_cases hid : i = d <;> simp [u, hid, h.quiet.disklock]
  have hrun : raidrepair c (d + 1) s = .ok (0, { u with disks := metaDisks c u }) := by
    rw [raidrepair_mirror_eq h hl hd hv, if_pos hpv,
      mirrorrepair_eq c h.quiet h.wiring hd hpD hpne hpair, Except.ok_bind, writeraidmeta_free c hfree]
    rfl
  have hu : MirrorInv c t u := by
    refine ⟨h.quiet.setDiskinfo (h.quiet.disklock d), ⟨fun i hi => ?_, ?_⟩, h.type, h.destroyed,
      h.pairs, ?_⟩
    · by_cases hid : i = d
      · subst hid
        simpa [u] using h.wiring.diskn _ hi
      · simpa [u, hid] using h.wiring.diskn i hi
    · simpa [u, Nat.ne_of_gt hd] using h.wiring.spare
    intro i hi hv₁ hv₂ b hb
    by_cases hid : pairOfDisk c t d = i
    · -- the repaired pair: both disks now hold the partner's blocks
      subst hid
      have hcopy : u.disks (d + 1) b = u.disks (partner c t d + 1) b := by
        simp [u, X, Nat.le_of_lt hb]
      rcases partner_spec hl hd with ⟨h₁, h₂⟩ | ⟨h₁, h₂⟩
      · rw [← h₁, ← h₂]
        exact hcopy
      · rw [← h₁, ← h₂]
        exact hcopy.symm
    · have hf := ne_of_pairOfDisk_ne hi (.inl rfl) hid
      have hs := ne_of_pairOfDisk_ne hi (.inr rfl) hid
      rw [hdisk _ hf, hdisk _ hs]
      exact h.mirror i hi (hval _ hf ▸ hv₁) (hval _ hs ▸ hv₂) b hb
  have hu' : MirrorInv c t { u with disks := metaDisks c u } := hu.congr rfl (dataEq_metaDisks c u)
  refine ⟨_, hrun, hu', by simp [u], fun x hx hal => ?_⟩
  -- a disk of the pair other than `d` that was valid before
  obtain ⟨m, hm, hmd, hvm⟩ : ∃ m, (m = pairFirst t (vpair c t x) ∨ m = pairSecond c t (vpair c t x)) ∧
      m ≠ d ∧ (s.raidmeta.diskinfo m).valid = true := by
    by_cases hid : pairOfDisk c t d = vpair c t x
    · refine ⟨partner c t d, ?_, hpne, hpv⟩
      rw [← hid]
      rcases partner_spec hl hd with ⟨-, h₂⟩ | ⟨-, h₂⟩
      · exact .inr h₂
      · exact .inl h₂
    · obtain ⟨m, hm, hvm⟩ := exists_valid_of_alive hal
      have hmd := ne_of_pairOfDisk_ne (vpair_lt hx) hm hid
      exact ⟨m, hm, hmd, (hval m hmd).symm.trans hvm⟩
  have hvm' : (({ u with disks := metaDisks c u } : RaidState).raidmeta.diskinfo m).valid = true :=
    (hval m hmd).trans hvm
  refine ⟨alive_of_valid hm hvm, ?_⟩
  rw [hu'.mirrorView_eq hx hm hvm', h.mirrorView_eq hx hm hvm]
  exact (dataEq_metaDisks c u _ _ (vblock_lt hx)).trans (hdisk m hmd _)

/-- `raidrepair` never faults on a mirrored level. For a disk of the array it
returns `0` exactly when the disk or its partner is valid, and the disk is
valid afterwards. It keeps the invariant, and a pair with a valid disk
afterwards had one before and reads as before. -/
theorem mirror_repair (h : MirrorInv c t s) (hl : MirrorLevel c t) (n : Int) :
    ∃ r s', raidrepair c n s = .ok (r, s') ∧ MirrorInv c t s' ∧
      (∀ x < diskblockn * npairs c t, alive c t s' (vpair c t x) = true →
        alive c t s (vpair c t x) = true ∧ mirrorView c t s' x = mirrorView c t s x) ∧
      (1 ≤ n → n ≤ c.DISKS →
        r = (if (s.raidmeta.diskinfo (n - 1).toNat).valid ||
          (s.raidmeta.diskinfo (partner c t (n - 1).toNat)).valid then 0 else -1) ∧
        (r = 0 → (s'.raidmeta.diskinfo (n - 1).toNat).valid = true)) := by
  have hkeep : ∀ x < diskblockn * npairs c t, alive c t s (vpair c t x) = true →
      alive c t s (vpair c t x) = true ∧ mirrorView c t s x = mirrorView c t s x :=
    fun _ _ hal => ⟨hal, rfl⟩
  by_cases hn : 1 ≤ n ∧ n ≤ c.DISKS
  · set d := (n - 1).toNat
    have hd : d < c.DISKS := by omega
    have hnd : n = (d : Int) + 1 := by omega
    cases hv : (s.raidmeta.diskinfo d).valid
    · cases hpv : (s.raidmeta.diskinfo (partner c t d)).valid
      · -- both disks of the pair are lost: nothing to copy from
        have hrun : raidrepair c n s = .ok (-1, s) := by
          rw [hnd, raidrepair_mirror_eq h hl hd hv, hpv]
          rfl
        exact ⟨-1, s, hrun, h, hkeep, fun _ _ => ⟨rfl, fun h0 => absurd h0 (by decide)⟩⟩
      · obtain ⟨s', hrun, hinv, hvd, hview⟩ := mirror_repair_copy h hl hd hv hpv
        exact ⟨0, s', hnd ▸ hrun, hinv, hview, fun _ _ => ⟨rfl, fun _ => hvd⟩⟩
    · exact ⟨0, s, raidrepair_valid c h.destroyed hn hv, h, hkeep, fun _ _ => ⟨rfl, fun _ => hv⟩⟩
  · exact ⟨-1, s, raidrepair_out c h.destroyed hn, h, hkeep, fun h1 h2 => absurd ⟨h1, h2⟩ hn⟩

end Steps

end Xv6Raid
